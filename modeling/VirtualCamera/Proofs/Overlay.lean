import VirtualCamera.Proofs.Grammar
import VirtualCamera.Proofs.RoundTrip

/-!
# A configuration file overlays the defaults

Whatever a file holds, what is loaded from it or else taken in its place can be used.
For the files that hold an object, this module says what is loaded: the default
configuration with the given fields in place of its own (`Config.IsOverlay`), in any
order, with any white space, and with any members beside them.

`Value.ofText?_of_spells` leads from the text to its members, so what is left is to look
the fields up among them.  A member for a field is found wherever it stands, because
there is no other one for it (`Entries.lookup_of_mem`).  The keys have to be texts: one
in which half of a surrogate pair stands alone is no text, and a file with it is refused
even if no field is meant (`entries?_eq_none`).
-/

namespace VirtualCamera

open Json

namespace Json

namespace Entries

variable {entries : Entries} {name : String} {v : Value}

theorem lookup_of_mem (honce : occursOnce entries name = true) (hv : (name, v) ∈ entries) :
    entries.lookup name = some v := by
  rw [occursOnce, decide_eq_true_eq] at honce
  induction entries with
  | nil => cases hv
  | cons e rest ih =>
      by_cases hname : e.1 = name
      · have hfilter : (rest.filter fun e => e.1 == name) = [] := by
          simpa [hname] using honce
        rcases List.mem_cons.mp hv with rfl | hrest
        · simp
        · have hmem : (name, v) ∈ rest.filter fun e => e.1 == name :=
            List.mem_filter.mpr ⟨hrest, beq_self_eq_true name⟩
          rw [hfilter] at hmem
          cases hmem
      · have hbeq : (e.1 == name) = false := by simpa using hname
        have hrest : (name, v) ∈ rest := by
          rcases List.mem_cons.mp hv with rfl | hrest
          · exact absurd rfl hname
          · exact hrest
        have hne : (name == e.1) = false := by simpa using Ne.symm hname
        rw [List.lookup_cons, hne]
        exact ih (by simpa [hbeq] using honce) hrest

theorem lookup_eq_none (h : ∀ v, (name, v) ∉ entries) : entries.lookup name = none := by
  rw [List.lookup_eq_none_iff]
  rintro ⟨key, v⟩ hmem
  have hne : name ≠ key := by
    rintro rfl
    exact h v hmem
  simpa using hne

/-- A field for a number is read as the number that is given for it, or is the default. -/
theorem exists_fieldOr? {α : Type} [Codec α] {toNat : α → Nat} {most : Nat}
    (hword : ∀ n ≤ most, ∃ a : α, decode (.integer n) = some a ∧ toNat a = n)
    (honce : occursOnce entries name = true)
    (hgiven : ∀ v, (name, v) ∈ entries → ∃ n : Nat, n ≤ most ∧ v = .integer n) (default : α) :
    ∃ a, entries.fieldOr? name default = some a ∧
      (∀ n : Nat, (name, .integer n) ∈ entries → toNat a = n) ∧
      ((∀ v, (name, v) ∉ entries) → toNat a = toNat default) := by
  by_cases habsent : ∀ v, (name, v) ∉ entries
  · refine ⟨default, ?_, fun n hn => absurd hn (habsent _), fun _ => rfl⟩
    rw [fieldOr?, lookup_eq_none habsent]
  · obtain ⟨v, hv⟩ := not_forall_not.mp habsent
    obtain ⟨n, hn, rfl⟩ := hgiven v hv
    obtain ⟨a, ha, htoNat⟩ := hword n hn
    refine ⟨a, ?_, fun k hk => ?_, fun h => absurd hv (h _)⟩
    · rw [fieldOr?, lookup_of_mem honce hv]
      exact ha
    · have hsame := (lookup_of_mem honce hk).symm.trans (lookup_of_mem honce hv)
      obtain rfl : k = n := by simpa using hsame
      exact htoNat

end Entries

theorem exists_decode_word {n : Nat} (h : n ≤ 0xffffffff) :
    ∃ w : UInt32, decode (.integer n) = some w ∧ w.toNat = n :=
  ⟨UInt32.ofNat n, map_integerIn?_natCast UInt32.ofNat (by omega),
    UInt32.toNat_ofNat_of_lt' (Nat.lt_of_le_of_lt h (by decide))⟩

theorem exists_decode_longWord {n : Nat} (h : n ≤ 0xffffffffffffffff) :
    ∃ w : UInt64, decode (.integer n) = some w ∧ w.toNat = n :=
  ⟨UInt64.ofNat n, map_integerIn?_natCast UInt64.ofNat (by omega),
    UInt64.toNat_ofNat_of_lt' (Nat.lt_of_le_of_lt h (by decide))⟩

end Json

namespace Config

/-! ## Fields -/

/-- The fields of a configuration. -/
inductive Field where
  | cameraId
  | pipelineDepth
  | maxFrameDuration
  | minFrameDuration
  deriving DecidableEq, Repr

namespace Field

def name : Field → String
  | cameraId => "camera_id"
  | pipelineDepth => "pipeline_depth"
  | maxFrameDuration => "max_frame_duration_ns"
  | minFrameDuration => "min_frame_duration_ns"

/-- The largest number that the field can hold. -/
def most : Field → Nat
  | cameraId => 0xffffffff
  | pipelineDepth | maxFrameDuration | minFrameDuration => 0xffffffffffffffff

theorem exists_name_eq {s : String} (h : s ∈ fieldNames) : ∃ f : Field, f.name = s := by
  simp only [fieldNames, List.mem_cons, List.not_mem_nil, or_false] at h
  rcases h with rfl | rfl | rfl | rfl
  exacts [⟨cameraId, rfl⟩, ⟨pipelineDepth, rfl⟩, ⟨maxFrameDuration, rfl⟩, ⟨minFrameDuration, rfl⟩]

end Field

def get (c : Config) : Field → Nat
  | .cameraId => c.cameraId.toNat
  | .pipelineDepth => c.pipelineDepth.toNat
  | .maxFrameDuration => c.maxFrameDuration.toNat
  | .minFrameDuration => c.minFrameDuration.toNat

theorem ext_get {c d : Config} (h : ∀ f, c.get f = d.get f) : c = d := by
  have hcamera := UInt32.toNat_inj.mp (h .cameraId)
  have hdepth := UInt64.toNat_inj.mp (h .pipelineDepth)
  have hmax := UInt64.toNat_inj.mp (h .maxFrameDuration)
  have hmin := UInt64.toNat_inj.mp (h .minFrameDuration)
  cases c
  cases d
  simp_all

/-- Each field is given at most once, as an integer in its range. -/
def GivesFields (members : List Member) : Prop :=
  ∀ f : Field, members.countP (·.1 = some f.name) ≤ 1 ∧
    ∀ v, (some f.name, v) ∈ members → ∃ n : Nat, n ≤ f.most ∧ v = .integer n

/-- The default configuration with the given fields in place of its own. -/
structure IsOverlay (members : List Member) (c : Config) : Prop where
  given : ∀ (f : Field) (n : Nat), (some f.name, .integer n) ∈ members → c.get f = n
  absent : ∀ f : Field, (∀ v, (some f.name, v) ∉ members) → c.get f = ({} : Config).get f

/-- The processor can run with the configuration. -/
def IsUsable (c : Config) : Prop :=
  0 < c.get .pipelineDepth ∧ 0 < c.get .minFrameDuration ∧
    c.get .minFrameDuration ≤ c.get .maxFrameDuration

instance (c : Config) : Decidable c.IsUsable :=
  inferInstanceAs (Decidable (_ ∧ _ ∧ _))

theorem check_cases (c : Config) :
    c.IsUsable ∧ c.check = .ok () ∨ ¬ c.IsUsable ∧ ∃ reason, c.check = .error (.config reason) := by
  have hzero (n : UInt64) : n = 0 ↔ n.toNat = 0 := by
    rw [← UInt64.toNat_inj, UInt64.toNat_zero]
  have hlt : c.maxFrameDuration < c.minFrameDuration ↔
      c.maxFrameDuration.toNat < c.minFrameDuration.toNat := UInt64.lt_iff_toNat_lt
  unfold IsUsable check
  simp only [get, hzero, hlt]
  split
  · exact .inr ⟨by omega, _, rfl⟩
  split
  · exact .inr ⟨by omega, _, rfl⟩
  split
  · exact .inr ⟨by omega, _, rfl⟩
  · exact .inl ⟨by omega, rfl⟩

theorem check_eq_ok_iff {c : Config} : c.check = .ok () ↔ c.IsUsable := by
  rcases c.check_cases with ⟨husable, hcheck⟩ | ⟨hunusable, reason, hcheck⟩
  · simp [husable, hcheck]
  · simp [hunusable, hcheck]

/-! ## Reading members -/

/-- Keys that are all texts. -/
theorem exists_entries {members : List Member} (h : ∀ m ∈ members, m.1 ≠ none) :
    ∃ entries : Entries, members = entries.map fun e => (some e.1, e.2) := by
  induction members with
  | nil => exact ⟨[], rfl⟩
  | cons m rest ih =>
      obtain ⟨entries, rfl⟩ := ih fun k hk => h k (List.mem_cons_of_mem _ hk)
      obtain ⟨key, hkey⟩ := Option.ne_none_iff_exists'.mp (h m List.mem_cons_self)
      exact ⟨(key, m.2) :: entries, by rw [List.map_cons, ← hkey]⟩

theorem entries?_eq_none {members : List Member} {m : Member} (hm : m ∈ members)
    (hkey : m.1 = none) (fields : List String) : entries? fields (.object members) = none := by
  have hnone : (members.mapM fun m : Member => m.1.map fun key => (key, m.2)) = none := by
    induction members with
    | nil => cases hm
    | cons k rest ih =>
        rcases List.mem_cons.mp hm with rfl | hrest
        · simp [hkey]
        · simp [ih hrest]
  simp only [entries?, hnone, Option.bind_eq_bind, Option.bind_none]

section GivesFields

variable {entries : Entries}

theorem GivesFields.occursOnce
    (h : GivesFields (entries.map fun e => (some e.1, e.2))) (f : Field) :
    occursOnce entries f.name = true := by
  have honce := (h f).1
  rw [List.countP_map, List.countP_eq_length_filter] at honce
  simpa [Json.occursOnce, Function.comp_def, ← beq_eq_decide] using honce

theorem GivesFields.given
    (h : GivesFields (entries.map fun e => (some e.1, e.2))) (f : Field) (v : Value)
    (hv : (f.name, v) ∈ entries) : ∃ n : Nat, n ≤ f.most ∧ v = .integer n :=
  (h f).2 v (List.mem_map.mpr ⟨(f.name, v), hv, rfl⟩)

theorem GivesFields.entries?_eq
    (h : GivesFields (entries.map fun e => (some e.1, e.2))) :
    entries? fieldNames (.object (entries.map fun e => (some e.1, e.2))) = some entries := by
  have honce : fieldNames.all (Json.occursOnce entries) = true := by
    refine List.all_eq_true.mpr fun name hname => ?_
    obtain ⟨f, rfl⟩ := Field.exists_name_eq hname
    exact h.occursOnce f
  simp only [entries?]
  rw [mapM_members]
  simp only [Option.bind_eq_bind, Option.bind_some, honce, if_true]

theorem GivesFields.exists_decode
    (h : GivesFields (entries.map fun e => (some e.1, e.2))) :
    ∃ c : Config, decode (.object (entries.map fun e => (some e.1, e.2))) = some c ∧
      c.IsOverlay (entries.map fun e => (some e.1, e.2)) := by
  have hmem (f : Field) (v : Value) : (some f.name, v) ∈
      (entries.map fun e => (some e.1, e.2) : List Member) ↔ (f.name, v) ∈ entries := by
    simp
  obtain ⟨camera, hcamera, hcameraGiven, hcameraAbsent⟩ := Entries.exists_fieldOr?
    (fun _ => exists_decode_word) (h.occursOnce .cameraId) (h.given .cameraId)
    ({} : Config).cameraId
  obtain ⟨depth, hdepth, hdepthGiven, hdepthAbsent⟩ := Entries.exists_fieldOr?
    (fun _ => exists_decode_longWord) (h.occursOnce .pipelineDepth) (h.given .pipelineDepth)
    ({} : Config).pipelineDepth
  obtain ⟨most, hmost, hmostGiven, hmostAbsent⟩ := Entries.exists_fieldOr?
    (fun _ => exists_decode_longWord) (h.occursOnce .maxFrameDuration) (h.given .maxFrameDuration)
    ({} : Config).maxFrameDuration
  obtain ⟨least, hleast, hleastGiven, hleastAbsent⟩ := Entries.exists_fieldOr?
    (fun _ => exists_decode_longWord) (h.occursOnce .minFrameDuration) (h.given .minFrameDuration)
    ({} : Config).minFrameDuration
  refine ⟨⟨camera, depth, most, least⟩, ?_, ?_, ?_⟩
  · simp only [Field.name] at hcamera hdepth hmost hleast
    simp only [decode, Option.bind_eq_bind, h.entries?_eq, Option.bind_some, hcamera, hdepth,
      hmost, hleast, Option.pure_def]
  · intro f n hn
    rw [hmem] at hn
    cases f
    · exact hcameraGiven n hn
    · exact hdepthGiven n hn
    · exact hmostGiven n hn
    · exact hleastGiven n hn
  · intro f hf
    simp only [hmem] at hf
    cases f
    · exact hcameraAbsent hf
    · exact hdepthAbsent hf
    · exact hmostAbsent hf
    · exact hleastAbsent hf

end GivesFields

/-! ## Loading -/

theorem load_text (text : String) :
    load (some text.toUTF8) = match (parse? text : Option Config) with
      | some c => c.check.map fun _ => c
      | none => .error (.malformed (complaint (some shape) text)) := by
  have htext : String.fromUTF8? text.toUTF8 = some text := dif_pos text.isValidUTF8
  simp only [load, fileRecord, fileText, htext, bind, Except.bind]
  cases (parse? text : Option Config) with
  | none => rfl
  | some c =>
    simp only []
    cases c.check <;> rfl

theorem check_of_load {content : Option ByteArray} {c : Config} (h : load content = .ok c) :
    c.check = .ok () := by
  unfold load at h
  cases hrecord : (fileRecord (some shape) content : Except Failure Config) with
  | error failure =>
      rw [hrecord] at h
      cases h
  | ok d =>
      rw [hrecord] at h
      rcases d.check_cases with ⟨-, hcheck⟩ | ⟨-, reason, hcheck⟩
      · simp only [bind, Except.bind, hcheck] at h
        cases h
        exact hcheck
      · simp only [bind, Except.bind, hcheck] at h
        cases h

theorem IsOverlay.unique {members : List Member} {c d : Config} (hfields : GivesFields members)
    (hc : IsOverlay members c) (hd : IsOverlay members d) : d = c := by
  refine ext_get fun f => ?_
  by_cases habsent : ∀ v, (some f.name, v) ∉ members
  · rw [hd.absent f habsent, hc.absent f habsent]
  · obtain ⟨v, hv⟩ := not_forall_not.mp habsent
    obtain ⟨n, -, rfl⟩ := (hfields f).2 v hv
    rw [hd.given f n hv, hc.given f n hv]

section Load

variable {members : List Member} {text : String}

/-- What is loaded from an object whose keys are texts. -/
theorem load_overlay (htext : Spells (.object members) text.toList)
    (hfields : GivesFields members) (hkeys : ∀ m ∈ members, m.1 ≠ none) :
    ∃ c, IsOverlay members c ∧ (c.IsUsable → load (some text.toUTF8) = .ok c) ∧
      (¬ c.IsUsable → ∃ reason, load (some text.toUTF8) = .error (.config reason)) := by
  obtain ⟨entries, rfl⟩ := exists_entries hkeys
  obtain ⟨c, hdecode, hc⟩ := hfields.exists_decode
  have hparse : (parse? text : Option Config) = some c := by
    rw [parse?, Value.ofText?_of_spells htext]
    exact hdecode
  have hload : load (some text.toUTF8) = c.check.map fun _ => c := by
    rw [load_text, hparse]
  refine ⟨c, hc, fun husable => ?_, fun hunusable => ?_⟩
  · rw [hload, check_eq_ok_iff.mpr husable]
    rfl
  · rcases c.check_cases with ⟨husable, -⟩ | ⟨-, reason, hcheck⟩
    · exact absurd husable hunusable
    · exact ⟨reason, by rw [hload, hcheck]; rfl⟩

/-- Texts of values that are no configuration are refused. -/
theorem load_malformed {v : Value} (htext : Spells v text.toList)
    (hdecode : (decode v : Option Config) = none) :
    ∃ complaint, load (some text.toUTF8) = .error (.malformed complaint) := by
  have hparse : (parse? text : Option Config) = none := by
    rw [parse?, Value.ofText?_of_spells htext]
    exact hdecode
  exact ⟨_, by rw [load_text, hparse]⟩

end Load

/-- A file with an object whose keys are texts, among them each field at most once with an
integer in its range, is loaded as the default configuration with these fields in place
of its own, if the processor can run with that, and is refused as a configuration
otherwise; one with a key that is no text is refused as malformed.  Whatever the file is
or is not, what is taken in the end can be used: it is the loaded configuration, or the
default if none is loaded. -/
theorem config_files_overlay_defaults :
    (∀ (members : List Member) (text : String), Spells (.object members) text.toList →
      GivesFields members →
        ((∀ m ∈ members, m.1 ≠ none) →
          ∃ c, IsOverlay members c ∧ (∀ d, IsOverlay members d → d = c) ∧
            (c.IsUsable → load (some text.toUTF8) = .ok c) ∧
            (¬ c.IsUsable → ∃ reason, load (some text.toUTF8) = .error (.config reason))) ∧
        ((∃ m ∈ members, m.1 = none) →
          ∃ complaint, load (some text.toUTF8) = .error (.malformed complaint))) ∧
    ∀ content, (loadOrDefault content).check = .ok () ∧
      (∀ c, load content = .ok c → loadOrDefault content = c) ∧
      ∀ failure, load content = .error failure → loadOrDefault content = {} := by
  refine ⟨fun members text htext hfields => ⟨fun hkeys => ?_, fun hkeys => ?_⟩, fun content => ?_⟩
  · obtain ⟨c, hc, hload⟩ := load_overlay htext hfields hkeys
    exact ⟨c, hc, fun d hd => hc.unique hfields hd, hload⟩
  · obtain ⟨m, hm, hkey⟩ := hkeys
    refine load_malformed htext ?_
    simp only [decode, entries?_eq_none hm hkey, Option.bind_eq_bind, Option.bind_none]
  · unfold loadOrDefault
    cases hload : load content with
    | ok c => exact ⟨check_of_load hload, fun d hd => Except.ok.inj hd, nofun⟩
    | error failure => exact ⟨rfl, nofun, fun _ _ => rfl⟩

namespace Sample

theorem isBlank_nil : IsBlank [] := nofun

theorem isBlank_space : IsBlank [' '] := by
  simp [IsBlank, isBlank]

theorem isWhole_digit {d : Char} (hd : d.isDigit = true) : IsWhole [d] := by
  simp [IsWhole, IsDigits, hd]

theorem spells_half : Spells (.string none) "\"\\ud800\"".toList :=
  .string (@SpellsPieces.unicode 'd' '8' '0' '0' 13 8 0 0 [] [] rfl .nil)

theorem spells_digit {d : Char} (hd : d.isDigit = true) :
    Spells (.integer (Text.ofDigits [d])) [d] :=
  .number (.natural (isWhole_digit hd))

/-- A depth of eight, after a value that means nothing here. -/
def text : String :=
  "\x7b\"x\": [\x7b\"\\ud800\": -0\x7d, 1e9],\n\t\"pipeline_depth\" : 8 \x7d "

def members : List Member :=
  [(some "x", .array [.object [(none, .real)], .real]), (some "pipeline_depth", .integer 8)]

theorem spells_members : Spells (.object members) text.toList := by
  have hbreak : IsBlank ['\n', '\t'] := by simp [IsBlank, isBlank]
  have hpower : SpellsExponent ['e', '9'] :=
    @SpellsExponent.some 'e' [] ['9'] (by simp) (by simp) (isWhole_digit rfl).1
  have hlarge : Spells .real ['1', 'e', '9'] :=
    .number (@SpellsNumber.real [] ['1'] [] _ (by simp) (isWhole_digit rfl) .none hpower (by simp))
  have hobject := Spells.object
    (.last spells_half (.spaced isBlank_space isBlank_nil (.number .minusZero)))
  have hlist := Spells.array (.next hobject (.last (.spaced isBlank_space isBlank_nil hlarge)))
  have hx : Spells (.string (some "x")) _ := spells_text (by simp)
  have hdepth : Spells (.string (some "pipeline_depth")) _ := spells_text (by simp)
  exact .spaced isBlank_nil isBlank_space (.object
    (.next hx (.spaced isBlank_space isBlank_nil hlist)
      (.last (.spaced hbreak isBlank_space hdepth)
        (.spaced isBlank_space isBlank_space (spells_digit (d := '8') rfl)))))

theorem givesFields : GivesFields members := by
  intro f
  cases f with
  | pipelineDepth =>
      refine ⟨by decide, fun v hv => ⟨8, by decide, ?_⟩⟩
      simpa [members, Field.name] using hv
  | cameraId | maxFrameDuration | minFrameDuration => simp [members, Field.name]

theorem isOverlay : IsOverlay members { pipelineDepth := 8 } where
  given f n hn := by
    cases f <;> simp [members, Field.name] at hn
    exact (Int.ofNat_inj.mp hn).symm
  absent f hf := by
    cases f with
    | pipelineDepth => exact absurd (by simp [members, Field.name]) (hf (.integer 8))
    | cameraId | maxFrameDuration | minFrameDuration => rfl

end Sample

theorem sample_file_overlays_defaults :
    load (some Sample.text.toUTF8) = .ok { pipelineDepth := 8 } := by
  obtain ⟨hobjects, -⟩ := config_files_overlay_defaults
  obtain ⟨hload, -⟩ := hobjects Sample.members Sample.text Sample.spells_members Sample.givesFields
  obtain ⟨c, -, honly, husable, -⟩ := hload (by simp [Sample.members])
  obtain rfl := honly _ Sample.isOverlay
  exact husable (by decide)

/-- Two objects that are refused: the key of the first, which gives no field, is half of a
surrogate pair, and the second gives a field as minus zero. -/
theorem half_pair_and_minus_zero_are_refused :
    (∃ members, Spells (.object members) "\x7b\"\\ud800\": 8\x7d".toList ∧
      GivesFields members ∧ IsOverlay members {} ∧ ({} : Config).IsUsable ∧
      ∃ complaint, load (some "\x7b\"\\ud800\": 8\x7d".toUTF8) = .error (.malformed complaint)) ∧
    ∃ members, Spells (.object members) "\x7b\"camera_id\":-0\x7d".toList ∧
      members.map Prod.fst = [some (Field.name .cameraId)] ∧
      ∃ complaint, load (some "\x7b\"camera_id\":-0\x7d".toUTF8) =
        .error (.malformed complaint) := by
  have hhalf : Spells (.object [(none, .integer 8)]) "\x7b\"\\ud800\": 8\x7d".toList :=
    .object (.last Sample.spells_half
      (.spaced Sample.isBlank_space Sample.isBlank_nil (Sample.spells_digit (d := '8') rfl)))
  have hcamera : Spells (.string (some "camera_id")) _ := spells_text (by simp)
  have hzero : Spells (.object [(some "camera_id", .real)]) "\x7b\"camera_id\":-0\x7d".toList :=
    .object (.last hcamera (.number .minusZero))
  refine ⟨⟨_, hhalf, fun f => ?_, ?_, by decide, load_malformed hhalf rfl⟩,
    ⟨_, hzero, rfl, load_malformed hzero rfl⟩⟩
  · exact ⟨by simp, by simp⟩
  · exact ⟨by simp, fun _ _ => rfl⟩

end Config

end VirtualCamera
