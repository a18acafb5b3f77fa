import Mathlib
import VirtualCamera.Json.Reader
import VirtualCamera.Json.Writer

/-!
# A JSON value is read back from its compact text

Writing goes from a value to tokens and from tokens to characters, and reading
goes back in two machines, so there are two round trips.

For the lexer, characters are *cut into* tokens (`Cuts`): on any text that begins
with them, the lexer hands out those tokens first and goes on at the rest as at the
beginning of a text.  A number or a literal is cut off only if no word character
follows, so the rest has to be plain (`IsPlain`); in a compact text it always is,
since a comma, a colon or a bracket comes after every scalar.

For the reader, the tokens of a value lead from a place where a value may come to
the place after it, whatever surrounds it (`foldlM_tokens`).  Both are by
recursion over the value, one case per constructor.
-/

namespace VirtualCamera.Json

/-! ## Numbers -/

theorem head?_toDigits {n : Nat} (h : 0 < n) : (Nat.toDigits 10 n).head? ≠ some '0' := by
  induction n using Nat.strong_induction_on with
  | _ n ih =>
      rcases Nat.lt_or_ge n 10 with hlt | hge
      · rw [Nat.toDigits_of_lt_base hlt]
        have hdigit : ∀ n < 10, 0 < n → n.digitChar ≠ '0' := by decide
        simpa using hdigit n hlt h
      · rw [Nat.toDigits_of_base_le (by decide) hge, List.head?_append_of_ne_nil _
          Nat.toDigits_ne_nil]
        exact ih (n / 10) (by omega) (by omega)

/-- The digits of a number are read as the number. -/
theorem magnitude?_toDigits (negative : Bool) (n : Nat) :
    magnitude? negative (Nat.toDigits 10 n) =
      some (if !negative then .integer n else if n = 0 then .real else .integer (-n)) := by
  have hdigits : ∀ c ∈ Nat.toDigits 10 n, c.isDigit = true :=
    fun c hc => Nat.isDigit_of_mem_toDigits (by decide) (by decide) hc
  have htake : (Nat.toDigits 10 n).takeWhile Char.isDigit = Nat.toDigits 10 n :=
    List.takeWhile_eq_self_iff.mpr hdigits
  have hdrop : (Nat.toDigits 10 n).dropWhile Char.isDigit = [] :=
    List.dropWhile_eq_nil_iff.mpr hdigits
  have hvalue : Text.ofDigits (Nat.toDigits 10 n) = n := Nat.ofDigitChars_ten_toDigits
  have hleading : ((Nat.toDigits 10 n).head? == some '0' &&
      (Nat.toDigits 10 n).length != 1) = false := by
    rcases Nat.eq_zero_or_pos n with rfl | hpos
    · simp
    · simp [head?_toDigits hpos]
  have hempty : (Nat.toDigits 10 n).isEmpty = false := by simp
  simp only [magnitude?, htake, hdrop, hvalue, hleading, hempty, Bool.or_self, Bool.false_eq_true,
    if_false, List.isEmpty_nil, if_true]

theorem scalar?_of_isDigit {d : Char} {rest : List Char} (hd : d.isDigit = true) :
    scalar? (d :: rest) = magnitude? false (d :: rest) := by
  have hne : ∀ c : Char, c.isDigit = false → d ≠ c := by
    rintro c hc rfl
    cases hc.symm.trans hd
  have hn := hne 'n' rfl
  have ht := hne 't' rfl
  have hf := hne 'f' rfl
  have hminus := hne '-' rfl
  unfold scalar?
  rw [if_neg (by simp [hn]), if_neg (by simp [ht]), if_neg (by simp [hf])]
  split
  · rename_i heq
    cases heq
    exact absurd rfl hminus
  · rfl

theorem scalar?_minus (rest : List Char) : scalar? ('-' :: rest) = magnitude? true rest := by
  simp [scalar?]

theorem exists_toDigits (n : Nat) :
    ∃ d rest, Nat.toDigits 10 n = d :: rest ∧ d.isDigit = true := by
  obtain ⟨d, rest, heq⟩ := List.exists_cons_of_ne_nil (Nat.toDigits_ne_nil (n := n) (b := 10))
  have hmem : d ∈ Nat.toDigits 10 n := heq ▸ List.mem_cons_self
  exact ⟨d, rest, heq, Nat.isDigit_of_mem_toDigits (by decide) (by decide) hmem⟩

theorem scalar?_decimal (n : Int) : scalar? (decimal n) = some (.integer n) := by
  unfold decimal
  split
  · have hpos : n.natAbs ≠ 0 := by omega
    have habs : -(n.natAbs : Int) = n := by omega
    rw [scalar?_minus, magnitude?_toDigits, habs]
    simp [hpos]
  · have habs : (n.natAbs : Int) = n := by omega
    obtain ⟨d, rest, heq, hd⟩ := exists_toDigits n.natAbs
    rw [heq, scalar?_of_isDigit hd, ← heq, magnitude?_toDigits, habs]
    simp

/-! ## The lexer -/

/-- A text that does not go on with a word character. -/
def IsPlain : List Char → Prop
  | [] => True
  | c :: _ => isWordChar c = false

theorem isPlain_cons {c : Char} (hc : isWordChar c = false) (rest : List Char) :
    IsPlain (c :: rest) := hc

/-- Before this rest, the characters are cut into these tokens. -/
def Cuts (chars : List Char) (tokens : List Token) (rest : List Char) : Prop :=
  tokens? (chars ++ rest) = (tokens? rest).map (tokens ++ ·)

theorem cuts_nil (rest : List Char) : Cuts [] [] rest := by
  simp [Cuts]

theorem Cuts.append {chars more rest : List Char} {tokens others : List Token}
    (h : Cuts chars tokens (more ++ rest)) (hmore : Cuts more others rest) :
    Cuts (chars ++ more) (tokens ++ others) rest := by
  unfold Cuts at *
  rw [List.append_assoc, h, hmore, Option.map_map]
  simp [Function.comp_def]

theorem cuts_punctuation {c : Char} {t : Token} (hc : Lexer.start c = some (.between, [t]))
    (rest : List Char) : Cuts [c] [t] rest := by
  simp [Cuts, tokens?, Lexer.run, Lexer.next, hc, Option.map_eq_bind]

/-! ### Words -/

theorem run_word {seen word rest : List Char} (hword : ∀ c ∈ word, isWordChar c = true) :
    Lexer.run (.word seen) (word ++ rest) = Lexer.run (.word (word.reverse ++ seen)) rest := by
  induction word generalizing seen with
  | nil => rfl
  | cons c word ih =>
      have hc : isWordChar c = true := hword c List.mem_cons_self
      have hnext : Lexer.next (.word seen) c = some (.word (c :: seen), []) := by
        simp [Lexer.next, hc]
      have hrest := @ih (c :: seen) fun d hd => hword d (List.mem_cons_of_mem _ hd)
      simp [Lexer.run, hnext, hrest]

theorem start_of_isWordChar {c : Char} (hc : isWordChar c = true) :
    Lexer.start c = some (.word [c], []) := by
  have hblank : isBlank c = false := by
    cases hb : isBlank c with
    | false => rfl
    | true =>
        simp only [isBlank, Bool.or_eq_true, beq_iff_eq] at hb
        rcases hb with ((rfl | rfl) | rfl) | rfl <;> exact absurd hc (by decide)
  have hquote : c ≠ '"' := by
    rintro rfl
    revert hc
    decide
  simp [Lexer.start, hblank, hquote, hc]

/-- A run of word characters that stands for a value. -/
structure IsWord (word : List Char) (v : Value) : Prop where
  value : scalar? word = some v
  ne_nil : word ≠ []
  chars : ∀ c ∈ word, isWordChar c = true

/-- A word is one token, if it ends there. -/
theorem IsWord.cuts {word rest : List Char} {v : Value} (h : IsWord word v)
    (hrest : IsPlain rest) : Cuts word [.scalar v] rest := by
  obtain ⟨hv, hne, hword⟩ := h
  obtain ⟨c, word, rfl⟩ := List.exists_cons_of_ne_nil hne
  have hc := start_of_isWordChar (hword c List.mem_cons_self)
  have hword' : ∀ d ∈ word, isWordChar d = true := fun d hd => hword d (List.mem_cons_of_mem _ hd)
  have hrun : tokens? (c :: word ++ rest) = Lexer.run (.word (c :: word).reverse) rest := by
    simp [tokens?, Lexer.run, Lexer.next, hc, run_word hword']
  rw [Cuts, hrun]
  cases rest with
  | nil => simp [tokens?, Lexer.run, Lexer.finish, hv]
  | cons d rest =>
      have hd : isWordChar d = false := hrest
      simp only [tokens?, Lexer.run, Lexer.next, hd, List.reverse_reverse, hv]
      cases Lexer.start d with
      | none => rfl
      | some p => cases hmore : Lexer.run p.1 rest <;> simp [hmore]

theorem isWord_decimal (n : Int) : IsWord (decimal n) (.integer n) := by
  have hdigits : ∀ c ∈ Nat.toDigits 10 n.natAbs, isWordChar c = true := fun c hc => by
    have hc : c.isDigit = true := Nat.isDigit_of_mem_toDigits (by decide) (by decide) hc
    simp [isWordChar, Char.isAlphanum, hc]
  refine ⟨scalar?_decimal n, ?_, ?_⟩ <;> unfold decimal <;> split
  · exact List.cons_ne_nil _ _
  · exact Nat.toDigits_ne_nil
  · intro c hc
    rcases List.mem_cons.mp hc with rfl | hc
    · decide
    · exact hdigits c hc
  · exact hdigits

theorem isWord_null : IsWord "null".toList .null :=
  ⟨by simp [scalar?], by simp, by simp; decide⟩

theorem isWord_true : IsWord "true".toList (.bool true) :=
  ⟨by simp [scalar?], by simp, by simp; decide⟩

theorem isWord_false : IsWord "false".toList (.bool false) :=
  ⟨by simp [scalar?], by simp, by simp; decide⟩

theorem isWord_real : IsWord "-0".toList .real :=
  ⟨(scalar?_minus _).trans (magnitude?_toDigits true 0), by simp, by simp; decide⟩

/-! ### Strings -/

theorem hexDigit?_digitChar : ∀ d < 16, hexDigit? d.digitChar = some d := by
  decide

/-- Four hexadecimal digits are read as the number. -/
theorem run_hex4 {seen : List Piece} {n : Nat} (hn : n < 0x10000) (rest : List Char) :
    Lexer.run (.unicode seen 0 3) (hex4 n ++ rest) =
      Lexer.run (.string (Piece.ofEscape n :: seen)) rest := by
  have hdigit (m : Nat) : hexDigit? (Nat.digitChar (m % 16)) = some (m % 16) :=
    hexDigit?_digitChar _ (Nat.mod_lt _ (by decide))
  have hvalue : 16 * (16 * (16 * (n / 4096 % 16) + n / 256 % 16) + n / 16 % 16) + n % 16 = n := by
    omega
  simp [hex4, Lexer.run, Lexer.next, hdigit, hvalue]

theorem run_simpleEscape {c d : Char} (h : simpleEscape? c = some d) (hc : c ≠ 'u')
    (seen : List Piece) (rest : List Char) :
    Lexer.run (.string seen) ('\\' :: c :: rest) =
      Lexer.run (.string (.char d :: seen)) rest := by
  simp [Lexer.run, Lexer.next, hc, h]

theorem Piece.ofEscape_toNat {c : Char} (hc : c.toNat < 0xd800) :
    Piece.ofEscape c.toNat = .char c := by
  have hlow : ¬(0xd800 ≤ c.toNat ∧ c.toNat < 0xe000) := by omega
  rw [Piece.ofEscape, if_neg hlow, Char.ofNat_toNat]

/-- An escaped character is read as the character. -/
theorem run_escape (c : Char) (seen : List Piece) (rest : List Char) :
    Lexer.run (.string seen) (escape c ++ rest) = Lexer.run (.string (.char c :: seen)) rest := by
  unfold escape
  split
  case h_8 hquote hbackslash _ _ _ _ _ =>
      split
      · rename_i hcontrol
        have hunicode : Lexer.run (.string seen) ('\\' :: 'u' :: hex4 c.toNat ++ rest) =
            Lexer.run (.unicode seen 0 3) (hex4 c.toNat ++ rest) := by
          simp [Lexer.run, Lexer.next]
        rw [hunicode, run_hex4 (by omega), Piece.ofEscape_toNat (by omega)]
      · rename_i hcontrol
        have hquote' : c ≠ '"' := hquote
        have hbackslash' : c ≠ '\\' := hbackslash
        simp [Lexer.run, Lexer.next, hquote', hbackslash', hcontrol]
  all_goals exact run_simpleEscape rfl (by decide) seen rest

theorem run_flatMap_escape (chars : List Char) (seen : List Piece) (rest : List Char) :
    Lexer.run (.string seen) (chars.flatMap escape ++ rest) =
      Lexer.run (.string ((chars.map .char).reverse ++ seen)) rest := by
  induction chars generalizing seen with
  | nil => rfl
  | cons c chars ih => simp [run_escape, ih]

theorem textOf_chars (chars : List Char) : textOf (chars.map .char) = some chars := by
  induction chars with
  | nil => rfl
  | cons c chars ih => simp [textOf, ih]

/-- The closing quote completes a string. -/
theorem run_closingQuote (seen : List Piece) (rest : List Char) :
    Lexer.run (.string seen) ('"' :: rest) = (tokens? rest).map
      (.scalar (.string ((textOf seen.reverse).map String.ofList)) :: ·) := by
  simp [tokens?, Lexer.run, Lexer.next, Option.map_eq_bind]

theorem cuts_quote (text : Option String) (rest : List Char) :
    Cuts (quote text) [.scalar (.string text)] rest := by
  have hopen (inside : List Char) : tokens? ('"' :: inside) = Lexer.run (.string []) inside := by
    simp [tokens?, Lexer.run, Lexer.next, Lexer.start, isBlank]
  cases text with
  | none =>
      have hhalf : Lexer.run (.string []) ('\\' :: 'u' :: hex4 0xd800 ++ '"' :: rest) =
          Lexer.run (.string [Piece.ofEscape 0xd800]) ('"' :: rest) := by
        rw [← run_hex4 (by decide)]
        simp [Lexer.run, Lexer.next]
      have hquote : quote none ++ rest = '"' :: ('\\' :: 'u' :: hex4 0xd800 ++ '"' :: rest) := by
        simp [quote]
      rw [Cuts, hquote, hopen, hhalf, run_closingQuote]
      rfl
  | some text =>
      have hquote : quote (some text) ++ rest =
          '"' :: (text.toList.flatMap escape ++ '"' :: rest) := by
        simp [quote]
      rw [Cuts, hquote, hopen, run_flatMap_escape, run_closingQuote]
      simp [textOf_chars]

/-! ### Scalars -/

/-- A value without parts is one token. -/
def Value.IsScalar : Value → Prop
  | .array _ | .object _ => False
  | .null | .bool _ | .integer _ | .real | .string _ => True

theorem cuts_scalar {v : Value} (hv : v.IsScalar) {rest : List Char} (hrest : IsPlain rest) :
    Cuts (Token.scalar v).chars [.scalar v] rest := by
  cases v with
  | null => exact isWord_null.cuts hrest
  | bool b =>
      cases b with
      | true => exact isWord_true.cuts hrest
      | false => exact isWord_false.cuts hrest
  | integer n => exact (isWord_decimal n).cuts hrest
  | real => exact isWord_real.cuts hrest
  | string text => exact cuts_quote text rest
  | array | object => cases hv

/-! ### Values -/

namespace Value

/-- The characters of some tokens are cut into these tokens again. -/
def CutsBack (tokens : List Token) (rest : List Char) : Prop :=
  Cuts (tokens.flatMap Token.chars) tokens rest

theorem CutsBack.append {tokens others : List Token} {rest : List Char}
    (h : CutsBack tokens (others.flatMap Token.chars ++ rest)) (hothers : CutsBack others rest) :
    CutsBack (tokens ++ others) rest := by
  unfold CutsBack
  rw [List.flatMap_append]
  exact Cuts.append h hothers

theorem tokens_of_isScalar {v : Value} (hv : v.IsScalar) : v.tokens = [.scalar v] := by
  cases v with
  | array | object => cases hv
  | _ => rfl

theorem cutsBack_scalar {v : Value} (hv : v.IsScalar) {rest : List Char} (hrest : IsPlain rest) :
    CutsBack v.tokens rest := by
  rw [tokens_of_isScalar hv, CutsBack, List.flatMap_singleton]
  exact cuts_scalar hv hrest

theorem cutsBack_comma (rest : List Char) : CutsBack [.comma] rest :=
  cuts_punctuation (c := ',') rfl rest

theorem cutsBack_key (k : Option String) (rest : List Char) :
    CutsBack [.scalar (.string k), .colon] rest :=
  (cuts_quote k _).append (cuts_punctuation (c := ':') rfl rest)

mutual

theorem cutsBack_tokens : ∀ (v : Value) (rest : List Char), IsPlain rest → CutsBack v.tokens rest
  | .null, _, hrest => cutsBack_scalar (v := .null) trivial hrest
  | .bool b, _, hrest => cutsBack_scalar (v := .bool b) trivial hrest
  | .integer n, _, hrest => cutsBack_scalar (v := .integer n) trivial hrest
  | .real, _, hrest => cutsBack_scalar (v := .real) trivial hrest
  | .string text, _, hrest => cutsBack_scalar (v := .string text) trivial hrest
  | .array items, rest, _ => by
      have hopen (more : List Char) : CutsBack [.openArray] more :=
        cuts_punctuation (c := '[') rfl more
      have hclose : CutsBack [.closeArray] rest := cuts_punctuation (c := ']') rfl rest
      have hitems := cutsBack_itemTokens items (']' :: rest) (isPlain_cons rfl rest)
      exact (hopen _).append (hitems.append hclose)
  | .object members, rest, _ => by
      have hopen (more : List Char) : CutsBack [.openObject] more :=
        cuts_punctuation (c := '\x7b') rfl more
      have hclose : CutsBack [.closeObject] rest := cuts_punctuation (c := '\x7d') rfl rest
      have hmembers := cutsBack_memberTokens members ('\x7d' :: rest) (isPlain_cons rfl rest)
      exact (hopen _).append (hmembers.append hclose)

theorem cutsBack_itemTokens : ∀ (items : List Value) (rest : List Char), IsPlain rest →
    CutsBack (itemTokens items) rest
  | [], rest, _ => cuts_nil rest
  | [v], rest, hrest => cutsBack_tokens v rest hrest
  | v :: w :: more, rest, hrest => by
      have hv := cutsBack_tokens v (',' :: ((itemTokens (w :: more)).flatMap Token.chars ++ rest))
        (isPlain_cons rfl _)
      have hmore := cutsBack_itemTokens (w :: more) rest hrest
      exact hv.append ((cutsBack_comma _).append hmore)

theorem cutsBack_memberTokens : ∀ (members : List Member) (rest : List Char), IsPlain rest →
    CutsBack (memberTokens members) rest
  | [], rest, _ => cuts_nil rest
  | [(k, v)], rest, hrest => (cutsBack_key k _).append (cutsBack_tokens v rest hrest)
  | (k, v) :: m :: more, rest, hrest => by
      have hv := cutsBack_tokens v
        (',' :: ((memberTokens (m :: more)).flatMap Token.chars ++ rest)) (isPlain_cons rfl _)
      have hmore := cutsBack_memberTokens (m :: more) rest hrest
      exact (cutsBack_key k _).append (hv.append ((cutsBack_comma _).append hmore))

end

/-- The text of a value consists of its tokens. -/
theorem tokens?_compact (v : Value) : tokens? v.compact.toList = some v.tokens := by
  have hcuts := cutsBack_tokens v [] trivial
  unfold CutsBack Cuts at hcuts
  rw [List.append_nil] at hcuts
  rw [compact, String.toList_ofList, hcuts]
  simp [tokens?, Lexer.run, Lexer.finish]

/-! ## The reader -/

/-- The tokens lead the reader from one place to another. -/
def Leads (tokens : List Token) (r s : Reader) : Prop :=
  tokens.foldlM Reader.next r = some s

theorem Leads.append {tokens others : List Token} {r s t : Reader} (h : Leads tokens r s)
    (hothers : Leads others s t) : Leads (tokens ++ others) r t := by
  unfold Leads at *
  rw [List.foldlM_append, h]
  exact hothers

theorem leads_of_next {t : Token} {r s : Reader} (h : r.next t = some s) : Leads [t] r s := by
  simp [Leads, h]

theorem leads_of_isScalar {v : Value} (hv : v.IsScalar) (place : Context) :
    Leads v.tokens (.value place) (.after v place) := by
  rw [tokens_of_isScalar hv]
  exact leads_of_next rfl

theorem exists_itemTokens (v : Value) (more : List Value) :
    ∃ t rest, itemTokens (v :: more) = t :: rest ∧ t ≠ .closeArray := by
  have hv : ∃ t rest, v.tokens = t :: rest ∧ t ≠ .closeArray := by
    cases v <;> exact ⟨_, _, rfl, by simp⟩
  obtain ⟨t, rest, heq, ht⟩ := hv
  cases more with
  | nil => exact ⟨t, rest, heq, ht⟩
  | cons w more => exact ⟨t, _, by rw [itemTokens, heq, List.cons_append], ht⟩

/-- The first item of an array is read like one after a comma. -/
theorem Leads.firstItem {v : Value} {more : List Value} {others : List Token} {outer : Context}
    {r : Reader} (h : Leads (itemTokens (v :: more) ++ others) (.value (.inArray [] outer)) r) :
    Leads (itemTokens (v :: more) ++ others) (.firstItem outer) r := by
  obtain ⟨t, rest, heq, ht⟩ := exists_itemTokens v more
  have hnext : Reader.next (.firstItem outer) t = Reader.next (.value (.inArray [] outer)) t := by
    cases t with
    | closeArray => exact absurd rfl ht
    | _ => rfl
  rw [heq, Leads, List.cons_append, List.foldlM_cons] at h ⊢
  rwa [hnext]

/-- The first key of an object is read like one after a comma. -/
theorem Leads.firstKey {m : Member} {more : List Member} {others : List Token} {outer : Context}
    {r : Reader} (h : Leads (memberTokens (m :: more) ++ others) (.key [] outer) r) :
    Leads (memberTokens (m :: more) ++ others) (.firstKey outer) r := by
  obtain ⟨k, v⟩ := m
  cases more <;> exact h

theorem leads_key (k : Option String) (done : List Member) (outer : Context) :
    Leads [.scalar (.string k), .colon] (.key done outer) (.value (.inObject done k outer)) := rfl

mutual

/-- The tokens of a value lead from a place where a value may come to the place
after it. -/
theorem leads_tokens : ∀ (v : Value) (place : Context),
    Leads v.tokens (.value place) (.after v place)
  | .null, place => leads_of_isScalar (v := .null) trivial place
  | .bool b, place => leads_of_isScalar (v := .bool b) trivial place
  | .integer n, place => leads_of_isScalar (v := .integer n) trivial place
  | .real, place => leads_of_isScalar (v := .real) trivial place
  | .string text, place => leads_of_isScalar (v := .string text) trivial place
  | .array [], _ => rfl
  | .array (v :: more), place => by
      have hopen : Leads [.openArray] (.value place) (.firstItem place) := rfl
      have hitems := leads_itemTokens (v :: more) (List.cons_ne_nil _ _) [] place
      exact hopen.append hitems.firstItem
  | .object [], _ => rfl
  | .object (m :: more), place => by
      have hopen : Leads [.openObject] (.value place) (.firstKey place) := rfl
      have hmembers := leads_memberTokens (m :: more) (List.cons_ne_nil _ _) [] place
      exact hopen.append hmembers.firstKey

/-- The items that are left of an array, and its end. -/
theorem leads_itemTokens : ∀ (items : List Value), items ≠ [] → ∀ (done : List Value)
    (outer : Context), Leads (itemTokens items ++ [.closeArray]) (.value (.inArray done outer))
      (.after (.array (done.reverse ++ items)) outer)
  | [], hne, _, _ => absurd rfl hne
  | [v], _, done, outer => by
      have hclose : Leads [.closeArray] (.after v (.inArray done outer))
          (.after (.array (v :: done).reverse) outer) := rfl
      rw [← List.reverse_cons]
      exact (leads_tokens v (.inArray done outer)).append hclose
  | v :: w :: more, _, done, outer => by
      have hcomma : Leads [.comma] (.after v (.inArray done outer))
          (.value (.inArray (v :: done) outer)) := rfl
      have hmore := leads_itemTokens (w :: more) (List.cons_ne_nil _ _) (v :: done) outer
      rw [List.reverse_cons, List.append_assoc, List.singleton_append] at hmore
      rw [itemTokens, List.append_assoc]
      exact (leads_tokens v (.inArray done outer)).append (hcomma.append hmore)

/-- The members that are left of an object, and its end. -/
theorem leads_memberTokens : ∀ (members : List Member), members ≠ [] → ∀ (done : List Member)
    (outer : Context), Leads (memberTokens members ++ [.closeObject]) (.key done outer)
      (.after (.object (done.reverse ++ members)) outer)
  | [], hne, _, _ => absurd rfl hne
  | [(k, v)], _, done, outer => by
      have hclose : Leads [.closeObject] (.after v (.inObject done k outer))
          (.after (.object ((k, v) :: done).reverse) outer) := rfl
      rw [← List.reverse_cons]
      exact (leads_key k done outer).append
        ((leads_tokens v (.inObject done k outer)).append hclose)
  | (k, v) :: m :: more, _, done, outer => by
      have hcomma : Leads [.comma] (.after v (.inObject done k outer))
          (.key ((k, v) :: done) outer) := rfl
      have hmore := leads_memberTokens (m :: more) (List.cons_ne_nil _ _) ((k, v) :: done) outer
      rw [List.reverse_cons, List.append_assoc, List.singleton_append] at hmore
      rw [memberTokens, List.append_assoc]
      exact (leads_key k done outer).append
        ((leads_tokens v (.inObject done k outer)).append (hcomma.append hmore))

end

/-- Every value is read back from its compact text. -/
theorem ofText?_compact (v : Value) : ofText? v.compact = some v := by
  have hleads : v.tokens.foldlM Reader.next (.value .top) = some (.after v .top) :=
    leads_tokens v .top
  simp [ofText?, tokens?_compact, ofTokens?, hleads, Reader.result]

end Value

end VirtualCamera.Json
