import VirtualCamera.Config
import VirtualCamera.Proofs.JsonText

/-!
# Records survive being written and read

A codec is lawful if reading undoes writing and no value is written as null; the
second is what lets an absent entry be told from one that is there.  Plain types,
words, lists and ranges are lawful, and so is every record: it is written with the
keys of its fields in their order, each at most once, so `entries?` takes the object
apart into the entries that it was made of (`HasKeys.entries?_ofFields`), and each
field is then looked up under its own key.

A value is read back from its compact text, so a lawful codec is all that texts need
to be read as what was written (`RoundTrips`).
-/

namespace VirtualCamera.Json

/-- A codec whose reading undoes its writing. -/
class LawfulCodec (α : Type) [Codec α] : Prop where
  decode_encode : ∀ a : α, decode (encode a) = some a
  encode_ne_null : ∀ a : α, encode a ≠ .null

export LawfulCodec (decode_encode encode_ne_null)

attribute [simp] LawfulCodec.decode_encode

/-! ## Plain types -/

theorem integerIn?_integer {least most n : Int} (hleast : least ≤ n) (hmost : n ≤ most) :
    integerIn? least most (.integer n) = some n :=
  if_pos ⟨hleast, hmost⟩

/-- An unsigned number within its bound is read as itself. -/
theorem map_integerIn?_natCast {α : Type} (ofNat : Nat → α) {n : Nat} {most : Int}
    (h : n ≤ most) :
    (integerIn? 0 most (.integer n)).map (fun m => ofNat m.toNat) = some (ofNat n) := by
  rw [integerIn?_integer (Int.natCast_nonneg n) h]
  rfl

instance : LawfulCodec UInt8 where
  decode_encode n := by
    have hlt := n.toNat_lt
    exact (map_integerIn?_natCast UInt8.ofNat (by omega)).trans (by simp)
  encode_ne_null _ := nofun

instance : LawfulCodec UInt32 where
  decode_encode n := by
    have hlt := n.toNat_lt
    exact (map_integerIn?_natCast UInt32.ofNat (by omega)).trans (by simp)
  encode_ne_null _ := nofun

instance : LawfulCodec UInt64 where
  decode_encode n := by
    have hlt := n.toNat_lt
    exact (map_integerIn?_natCast UInt64.ofNat (by omega)).trans (by simp)
  encode_ne_null _ := nofun

instance : LawfulCodec Int32 where
  decode_encode n := by
    have hle := n.le_toInt
    have hlt := n.toInt_lt
    simp only [encode, decode]
    rw [integerIn?_integer (by omega) (by omega)]
    simp
  encode_ne_null _ := nofun

instance : LawfulCodec Bool where
  decode_encode _ := rfl
  encode_ne_null _ := nofun

instance {α : Type} [Vocabulary α] : LawfulCodec α where
  decode_encode a := Vocabulary.ofWord?_word a
  encode_ne_null _ := nofun

instance {α : Type} [Codec α] [LawfulCodec α] : LawfulCodec (List α) where
  decode_encode items := by
    simp only [encode, decode]
    induction items with
    | nil => rfl
    | cons a items ih => simp [ih]
  encode_ne_null _ := nofun

instance {α : Type} [Codec α] [LawfulCodec α] : LawfulCodec (Range α) where
  decode_encode r := by simp [encode, decode]
  encode_ne_null _ := nofun

/-- An entry that is there is read as such, because it is not null. -/
theorem decode_encode_some {α : Type} [Codec α] [LawfulCodec α] (a : α) :
    (decode (encode a) : Option (Option α)) = some (some a) := by
  have hne := encode_ne_null a
  have hdecode := decode_encode a
  generalize encode a = v at hne hdecode ⊢
  cases v with
  | null => exact absurd rfl hne
  | _ => exact congrArg (Option.map some) hdecode

/-! ## Entries -/

theorem mapM_members (entries : Entries) :
    ((entries.map fun f => (some f.1, f.2)).mapM fun m : Member => m.1.map fun key => (key, m.2)) =
      some entries := by
  induction entries with
  | nil => rfl
  | cons f rest ih => simp [ih]

theorem occursOnce_of_nodup {entries : Entries} (h : (entries.map (·.1)).Nodup) (name : String) :
    occursOnce entries name = true := by
  have hcount : (entries.filter fun e => e.1 == name).length = (entries.map (·.1)).count name := by
    rw [← List.countP_eq_length_filter, List.count, List.countP_map]
    rfl
  rw [occursOnce, hcount, decide_eq_true_eq]
  exact List.nodup_iff_count_le_one.mp h name

namespace Entries

/-- The keys are names of fields, in the order of the fields. -/
def HasKeys (entries : Entries) (fields : List String) : Prop :=
  (entries.map (·.1)).Sublist fields

theorem HasKeys.append {entries others : Entries} {fields more : List String}
    (h : entries.HasKeys fields) (hothers : others.HasKeys more) :
    (entries ++ others).HasKeys (fields ++ more) := by
  unfold HasKeys
  rw [List.map_append]
  exact List.Sublist.append h hothers

variable {α : Type} [Codec α]

theorem hasKeys_presentField (name : String) (a : Option α) :
    (presentField name a).HasKeys [name] := by
  cases a with
  | none => exact List.nil_sublist _
  | some a => exact List.Sublist.refl [name]

/-- An object is taken apart into the entries that it was made of. -/
theorem HasKeys.entries?_ofFields {entries : Entries} {fields : List String}
    (hkeys : entries.HasKeys fields) (hnodup : fields.Nodup) :
    entries? fields (.ofFields entries) = some entries := by
  have honce : fields.all (occursOnce entries) = true :=
    List.all_eq_true.mpr fun name _ => occursOnce_of_nodup (hnodup.sublist hkeys) name
  have hmembers := mapM_members entries
  simp only [Value.ofFields, entries?]
  rw [hmembers]
  simp only [Option.bind_eq_bind, Option.bind_some, honce, if_true]

/-- So a record that was written is read from the very entries it was made of. -/
theorem HasKeys.bind_entries? {β : Type} {entries : Entries} {fields : List String}
    (hkeys : entries.HasKeys fields) (hnodup : fields.Nodup) (read : Entries → Option β) :
    (entries? fields (.ofFields entries)).bind read = read entries := by
  rw [hkeys.entries?_ofFields hnodup, Option.bind_some]

/-! ### Looking up fields -/

theorem lookup_field (name other : String) (a : α) :
    (field name a).lookup other = if other == name then some (encode a) else none := by
  cases h : other == name <;> simp [field, List.lookup_cons, h]

theorem lookup_presentField (name other : String) (a : Option α) :
    (presentField name a).lookup other = if other == name then a.map encode else none := by
  cases a with
  | none => simp [presentField]
  | some a => exact lookup_field name other a

theorem fieldOr?_eq_elim (entries : Entries) (name : String) (default : α) :
    entries.fieldOr? name default = (entries.lookup name).elim (some default) decode := by
  cases h : entries.lookup name <;> simp [fieldOr?, h]

/-- A field that may be absent is read as what was written for it, if anything. -/
theorem elim_decode_encode [LawfulCodec α] (a : Option α) :
    a.elim (some none) (decode ∘ encode) = some a := by
  cases a with
  | none => rfl
  | some a => exact decode_encode_some a

end Entries

end VirtualCamera.Json

namespace VirtualCamera

open Json Entries

/-! ## Records -/

instance : LawfulCodec FrameRate where
  decode_encode r := by
    refine (HasKeys.bind_entries? ?keys (by decide) _).trans ?fields
    case keys => exact List.Sublist.refl _
    case fields => simp [field?, List.lookup_append, lookup_field]
  encode_ne_null _ := nofun

instance : LawfulCodec Stream where
  decode_encode s := by
    refine (HasKeys.bind_entries? ?keys (by decide) _).trans ?fields
    case keys => exact List.Sublist.refl _
    case fields => simp [field?, List.lookup_append, lookup_field]
  encode_ne_null _ := nofun

instance : LawfulCodec Characteristics where
  decode_encode c := by
    refine (HasKeys.bind_entries? ?keys (by decide) _).trans ?fields
    case keys => exact List.Sublist.refl _
    case fields => simp [field?, List.lookup_append, lookup_field]
  encode_ne_null _ := nofun

instance : LawfulCodec Config where
  decode_encode c := by
    refine (HasKeys.bind_entries? ?keys (by decide) _).trans ?fields
    case keys => exact List.Sublist.refl _
    case fields => simp [fieldOr?_eq_elim, List.lookup_append, lookup_field]
  encode_ne_null _ := nofun

instance : LawfulCodec CaptureSettings where
  decode_encode s := by
    refine (HasKeys.bind_entries? ?keys (by decide) _).trans ?fields
    case keys =>
      exact (hasKeys_presentField _ s.intent).append (hasKeys_presentField _ s.control)
        |>.append (hasKeys_presentField _ s.exposure)
        |>.append (hasKeys_presentField _ s.whiteBalance)
        |>.append (hasKeys_presentField _ s.focus)
        |>.append (hasKeys_presentField _ s.frameRate)
        |>.append (hasKeys_presentField _ s.exposureTime)
        |>.append (hasKeys_presentField _ s.frameDuration)
        |>.append (hasKeys_presentField _ s.sensitivity)
        |>.append (hasKeys_presentField _ s.exposureState)
    case fields =>
      simp [fieldOr?_eq_elim, List.lookup_append, lookup_presentField, elim_decode_encode]
  encode_ne_null _ := nofun

/-! ## Texts -/

namespace Json

/-- Writing loses nothing that reading would find. -/
structure RoundTrips (α : Type) [Codec α] : Prop where
  /-- the text of a value is read as the value -/
  value : ∀ a : α, parse? (render a) = some a
  /-- what any text was read as is read again from its own text -/
  text : ∀ (t : String) (a : α), parse? t = some a → parse? (render a) = some a
  /-- a text is written anew as one that is left as it is when written anew -/
  rewriting : ∀ t t' : String, (parse? t : Option α).map render = some t' →
    (parse? t' : Option α).map render = some t'

theorem parse?_render {α : Type} [Codec α] [LawfulCodec α] (a : α) :
    parse? (render a) = some a := by
  rw [parse?, render, Value.ofText?_compact]
  exact decode_encode a

theorem roundTrips {α : Type} [Codec α] [LawfulCodec α] : RoundTrips α where
  value := parse?_render
  text _ a _ := parse?_render a
  rewriting t t' h := by
    obtain ⟨a, -, rfl⟩ := Option.map_eq_some_iff.mp h
    rw [parse?_render]
    rfl

/-- Every record survives being written and read, whichever of its fields are
there and whatever the numbers and lists in them, and so does every word. -/
theorem records_survive_their_texts :
    RoundTrips CaptureSettings ∧ RoundTrips Characteristics ∧ RoundTrips Config ∧
      RoundTrips Stream ∧ RoundTrips FrameRate ∧
      ∀ (α : Type) [Vocabulary α], RoundTrips α :=
  ⟨roundTrips, roundTrips, roundTrips, roundTrips, roundTrips, fun _ _ => roundTrips⟩

end Json

end VirtualCamera
