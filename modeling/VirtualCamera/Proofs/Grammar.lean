import VirtualCamera.Proofs.JsonText

/-!
# Every JSON text of a value is read as the value

The compact text is one of many that spell a value: white space may stand around every
value and every key, a character may be escaped or not, a number may have an exponent.
`Spells` is the grammar of all these texts, one constructor for each of its rules, and
says which value each of them stands for.

A spelled value is cut into the same tokens as its compact text (`Spells.cuts`), because
white space is cut into nothing and each scalar into one token.  From there on the reader
finds its way by `Value.leads_tokens`, so the value is read back from any of its texts
(`Value.ofText?_of_spells`), whatever its nesting.
-/

namespace VirtualCamera.Json

/-! ## The grammar -/

/-- White space, or nothing. -/
def IsBlank (chars : List Char) : Prop :=
  ∀ c ∈ chars, isBlank c = true

/-- Decimal digits, at least one. -/
def IsDigits (chars : List Char) : Prop :=
  chars ≠ [] ∧ ∀ c ∈ chars, c.isDigit = true

/-- The digits of a whole number, which has no zero before other digits. -/
def IsWhole (digits : List Char) : Prop :=
  IsDigits digits ∧ (digits.head? = some '0' → digits = ['0'])

inductive SpellsFraction : List Char → Prop where
  | none : SpellsFraction []
  | some {digits : List Char} : IsDigits digits → SpellsFraction ('.' :: digits)

inductive SpellsExponent : List Char → Prop where
  | none : SpellsExponent []
  | some {mark : Char} {sign digits : List Char} : mark ∈ ['e', 'E'] →
      sign ∈ [[], ['+'], ['-']] → IsDigits digits → SpellsExponent (mark :: sign ++ digits)

/-- Numbers.  Minus zero is no integer, and neither is a number with a fraction or an
exponent. -/
inductive SpellsNumber : Value → List Char → Prop where
  | natural {digits : List Char} : IsWhole digits →
      SpellsNumber (.integer (Text.ofDigits digits)) digits
  | negative {digits : List Char} : IsWhole digits → Text.ofDigits digits ≠ 0 →
      SpellsNumber (.integer (-Text.ofDigits digits)) ('-' :: digits)
  | minusZero : SpellsNumber .real ['-', '0']
  | real {sign digits fraction exponent : List Char} : sign ∈ [[], ['-']] → IsWhole digits →
      SpellsFraction fraction → SpellsExponent exponent → fraction ++ exponent ≠ [] →
      SpellsNumber .real (sign ++ (digits ++ (fraction ++ exponent)))

/-- What stands between the quotes of a string. -/
inductive SpellsPieces : List Piece → List Char → Prop where
  | nil : SpellsPieces [] []
  | char {c : Char} {pieces : List Piece} {chars : List Char} : c ≠ '"' → c ≠ '\\' →
      0x20 ≤ c.toNat → SpellsPieces pieces chars → SpellsPieces (.char c :: pieces) (c :: chars)
  | escape {c d : Char} {pieces : List Piece} {chars : List Char} : simpleEscape? c = some d →
      SpellsPieces pieces chars → SpellsPieces (.char d :: pieces) ('\\' :: c :: chars)
  | unicode {a b c d : Char} {i j k l : Nat} {pieces : List Piece} {chars : List Char} :
      [a, b, c, d].map hexDigit? = [some i, some j, some k, some l] →
      SpellsPieces pieces chars →
      SpellsPieces (.ofEscape (16 * (16 * (16 * i + j) + k) + l) :: pieces)
        ('\\' :: 'u' :: a :: b :: c :: d :: chars)

mutual

/-- The texts of a value. -/
inductive Spells : Value → List Char → Prop where
  | null : Spells .null "null".toList
  | true : Spells (.bool Bool.true) "true".toList
  | false : Spells (.bool Bool.false) "false".toList
  | number {v : Value} {chars : List Char} : SpellsNumber v chars → Spells v chars
  | string {pieces : List Piece} {chars : List Char} : SpellsPieces pieces chars →
      Spells (.string ((textOf pieces).map String.ofList)) (['"'] ++ chars ++ ['"'])
  | array {items : List Value} {chars : List Char} : SpellsItems items chars →
      Spells (.array items) (['['] ++ chars ++ [']'])
  | object {members : List Member} {chars : List Char} : SpellsMembers members chars →
      Spells (.object members) (['\x7b'] ++ chars ++ ['\x7d'])
  | spaced {v : Value} {before chars after : List Char} : IsBlank before → IsBlank after →
      Spells v chars → Spells v (before ++ chars ++ after)

/-- The items of an array, with commas between them. -/
inductive SpellsItems : List Value → List Char → Prop where
  | none {chars : List Char} : IsBlank chars → SpellsItems [] chars
  | last {v : Value} {chars : List Char} : Spells v chars → SpellsItems [v] chars
  | next {v w : Value} {more : List Value} {chars rest : List Char} : Spells v chars →
      SpellsItems (w :: more) rest → SpellsItems (v :: w :: more) (chars ++ ([','] ++ rest))

/-- The members of an object, with commas between them. -/
inductive SpellsMembers : List Member → List Char → Prop where
  | none {chars : List Char} : IsBlank chars → SpellsMembers [] chars
  | last {k : Option String} {v : Value} {key chars : List Char} : Spells (.string k) key →
      Spells v chars → SpellsMembers [(k, v)] (key ++ ([':'] ++ chars))
  | next {k : Option String} {v : Value} {m : Member} {more : List Member}
      {key chars rest : List Char} : Spells (.string k) key → Spells v chars →
      SpellsMembers (m :: more) rest →
      SpellsMembers ((k, v) :: m :: more) (key ++ ([':'] ++ (chars ++ ([','] ++ rest))))

end

/-! ## Numbers -/

theorem IsDigits.isDigits {digits : List Char} (h : IsDigits digits) :
    Text.isDigits digits = true := by
  obtain ⟨hne, hdigits⟩ := h
  simpa [Text.isDigits, hne] using hdigits

/-- A text that does not go on with a digit. -/
def EndsDigits (rest : List Char) : Prop :=
  ∀ c ∈ rest.head?, c.isDigit = false

theorem takeWhile_isDigit {digits rest : List Char} (h : ∀ c ∈ digits, c.isDigit = true)
    (hrest : EndsDigits rest) :
    (digits ++ rest).takeWhile Char.isDigit = digits ∧
      (digits ++ rest).dropWhile Char.isDigit = rest := by
  rw [List.takeWhile_append_of_pos h, List.dropWhile_append_of_pos h]
  cases rest with
  | nil => simp
  | cons c rest =>
      have hc : c.isDigit = false := hrest c rfl
      simp [hc]

theorem SpellsExponent.endsDigits {exponent : List Char} (h : SpellsExponent exponent) :
    EndsDigits exponent := by
  cases h with
  | none => exact nofun
  | @some mark sign digits hmark =>
      intro c hc
      obtain rfl := Option.some.inj hc
      simp only [List.mem_cons, List.not_mem_nil, or_false] at hmark
      rcases hmark with rfl | rfl <;> rfl

theorem SpellsFraction.endsDigits {fraction exponent : List Char} (h : SpellsFraction fraction)
    (hexponent : SpellsExponent exponent) : EndsDigits (fraction ++ exponent) := by
  cases h with
  | none => exact hexponent.endsDigits
  | some =>
      intro c hc
      obtain rfl := Option.some.inj hc
      rfl

theorem SpellsExponent.isExponent {exponent : List Char} (h : SpellsExponent exponent) :
    isExponent exponent = true := by
  cases h with
  | none => rfl
  | @some mark sign digits hmark hsign hdigits =>
      have hrun := hdigits.isDigits
      have hmark' : (mark == 'e' || mark == 'E') = true := by simpa using hmark
      simp only [List.mem_cons, List.not_mem_nil, or_false] at hsign
      rcases hsign with rfl | rfl | rfl
      · -- a digit is no sign
        obtain ⟨d, digits, rfl⟩ := List.exists_cons_of_ne_nil hdigits.1
        have hd : d.isDigit = true := hdigits.2 d List.mem_cons_self
        unfold Json.isExponent
        simp only [List.cons_append, List.nil_append, hmark', Bool.true_and]
        split
        · rename_i heq
          obtain ⟨rfl, -⟩ := List.cons.inj heq
          cases hd
        · rename_i heq
          obtain ⟨rfl, -⟩ := List.cons.inj heq
          cases hd
        · exact hrun
      · simp [Json.isExponent, hmark', hrun]
      · simp [Json.isExponent, hmark', hrun]

theorem SpellsFraction.isFraction {fraction exponent : List Char} (h : SpellsFraction fraction)
    (hexponent : SpellsExponent exponent) : isFraction (fraction ++ exponent) = true := by
  cases h with
  | none =>
      have heq : Json.isFraction exponent = Json.isExponent exponent := by
        cases hexponent with
        | none => rfl
        | some hmark =>
            simp only [List.mem_cons, List.not_mem_nil, or_false] at hmark
            rcases hmark with rfl | rfl <;> rfl
      exact heq.trans hexponent.isExponent
  | some hdigits =>
      obtain ⟨htake, hdrop⟩ := takeWhile_isDigit hdigits.2 hexponent.endsDigits
      simp [Json.isFraction, htake, hdrop, hdigits.1, hexponent.isExponent]

theorem IsWhole.no_leadingZero {digits : List Char} (h : IsWhole digits) :
    (digits.isEmpty || (digits.head? == some '0' && digits.length != 1)) = false := by
  obtain ⟨⟨hne, -⟩, hzero⟩ := h
  by_cases hhead : digits.head? = some '0'
  · rw [hzero hhead]
    rfl
  · simp [hne, hhead]

/-- A whole number that nothing follows. -/
theorem magnitude?_of_isWhole {digits : List Char} (h : IsWhole digits) (negative : Bool) :
    magnitude? negative digits = some (if !negative then .integer (Text.ofDigits digits)
      else if Text.ofDigits digits = 0 then .real else .integer (-Text.ofDigits digits)) := by
  have hend : EndsDigits [] := nofun
  obtain ⟨htake, hdrop⟩ := takeWhile_isDigit h.1.2 hend
  rw [List.append_nil] at htake hdrop
  simp only [magnitude?, htake, hdrop, h.no_leadingZero, Bool.false_eq_true, if_false,
    List.isEmpty_nil, if_true]

/-- A whole number with a fraction, an exponent, or both. -/
theorem magnitude?_of_isFraction {digits rest : List Char} (h : IsWhole digits)
    (hrest : EndsDigits rest) (hne : rest ≠ []) (hfraction : isFraction rest = true)
    (negative : Bool) : magnitude? negative (digits ++ rest) = some .real := by
  obtain ⟨htake, hdrop⟩ := takeWhile_isDigit h.1.2 hrest
  have hempty : rest.isEmpty = false := by simpa using hne
  simp only [magnitude?, htake, hdrop, h.no_leadingZero, hempty, hfraction, Bool.false_eq_true,
    if_false, if_true]

theorem scalar?_of_isWhole {digits rest : List Char} (h : IsWhole digits) :
    scalar? (digits ++ rest) = magnitude? false (digits ++ rest) := by
  obtain ⟨d, more, rfl⟩ := List.exists_cons_of_ne_nil h.1.1
  exact scalar?_of_isDigit (h.1.2 d List.mem_cons_self)

theorem SpellsNumber.scalar? {v : Value} {chars : List Char} (h : SpellsNumber v chars) :
    scalar? chars = some v := by
  cases h with
  | natural hwhole =>
      rw [← List.append_nil chars, scalar?_of_isWhole hwhole, List.append_nil,
        magnitude?_of_isWhole hwhole]
      rfl
  | negative hwhole hne =>
      rw [scalar?_minus, magnitude?_of_isWhole hwhole]
      simp [hne]
  | minusZero => rfl
  | real hsign hwhole hfraction hexponent hne =>
      have hrest := hfraction.endsDigits hexponent
      have hreal := hfraction.isFraction hexponent
      simp only [List.mem_cons, List.not_mem_nil, or_false] at hsign
      rcases hsign with rfl | rfl
      · rw [List.nil_append, scalar?_of_isWhole hwhole,
          magnitude?_of_isFraction hwhole hrest hne hreal]
      · rw [List.singleton_append, scalar?_minus,
          magnitude?_of_isFraction hwhole hrest hne hreal]

/-! ### Numbers consist of word characters -/

/-- Characters of numbers and literals only. -/
def IsWordLike (chars : List Char) : Prop :=
  ∀ c ∈ chars, isWordChar c = true

theorem isWordLike_nil : IsWordLike [] := nofun

theorem IsWordLike.cons {c : Char} {chars : List Char} (hc : isWordChar c = true)
    (h : IsWordLike chars) : IsWordLike (c :: chars) := by
  intro d hd
  rcases List.mem_cons.mp hd with rfl | hd
  · exact hc
  · exact h d hd

theorem IsWordLike.append {chars more : List Char} (h : IsWordLike chars)
    (hmore : IsWordLike more) : IsWordLike (chars ++ more) := by
  intro c hc
  rcases List.mem_append.mp hc with hc | hc
  · exact h c hc
  · exact hmore c hc

theorem IsDigits.isWordLike {digits : List Char} (h : IsDigits digits) : IsWordLike digits := by
  intro c hc
  simp [isWordChar, Char.isAlphanum, h.2 c hc]

theorem SpellsFraction.isWordLike {fraction : List Char} (h : SpellsFraction fraction) :
    IsWordLike fraction := by
  cases h with
  | none => exact isWordLike_nil
  | some hdigits => exact hdigits.isWordLike.cons rfl

theorem SpellsExponent.isWordLike {exponent : List Char} (h : SpellsExponent exponent) :
    IsWordLike exponent := by
  cases h with
  | none => exact isWordLike_nil
  | @some mark sign digits hmark hsign hdigits =>
      have hsigned : IsWordLike (sign ++ digits) := by
        simp only [List.mem_cons, List.not_mem_nil, or_false] at hsign
        rcases hsign with rfl | rfl | rfl
        · exact hdigits.isWordLike
        · exact hdigits.isWordLike.cons rfl
        · exact hdigits.isWordLike.cons rfl
      simp only [List.mem_cons, List.not_mem_nil, or_false] at hmark
      rcases hmark with rfl | rfl <;> exact hsigned.cons rfl

theorem SpellsNumber.isWordLike {v : Value} {chars : List Char} (h : SpellsNumber v chars) :
    IsWordLike chars := by
  cases h with
  | natural hwhole => exact hwhole.1.isWordLike
  | negative hwhole => exact hwhole.1.isWordLike.cons rfl
  | minusZero => exact (isWordLike_nil.cons rfl).cons rfl
  | real hsign hwhole hfraction hexponent =>
      have hrest := hwhole.1.isWordLike.append (hfraction.isWordLike.append hexponent.isWordLike)
      simp only [List.mem_cons, List.not_mem_nil, or_false] at hsign
      rcases hsign with rfl | rfl
      · exact hrest
      · exact hrest.cons rfl

theorem SpellsNumber.isWord {v : Value} {chars : List Char} (h : SpellsNumber v chars) :
    IsWord chars v where
  value := h.scalar?
  ne_nil := by
    rintro rfl
    cases h.scalar?
  chars := h.isWordLike

theorem SpellsNumber.isScalar {v : Value} {chars : List Char} (h : SpellsNumber v chars) :
    v.IsScalar := by
  cases h <;> trivial

/-! ## Strings -/

/-- What stands between the quotes is read piece by piece. -/
theorem SpellsPieces.run {pieces : List Piece} {chars : List Char} (h : SpellsPieces pieces chars)
    (seen : List Piece) (rest : List Char) :
    Lexer.run (.string seen) (chars ++ rest) =
      Lexer.run (.string (pieces.reverse ++ seen)) rest := by
  induction h generalizing seen with
  | nil => rfl
  | @char c pieces chars hquote hbackslash hcontrol _ ih =>
      have hnext : Lexer.next (.string seen) c = some (.string (.char c :: seen), []) := by
        simp [Lexer.next, hquote, hbackslash, Nat.not_lt.mpr hcontrol]
      simp [Lexer.run, hnext, ih]
  | @escape c d pieces chars hescape _ ih =>
      have hu : c ≠ 'u' := by
        rintro rfl
        cases hescape
      have hrun := run_simpleEscape hescape hu seen (chars ++ rest)
      simp only [List.cons_append, hrun, ih, List.reverse_cons, List.append_assoc,
        List.nil_append]
  | @unicode a b c d i j k l pieces chars hdigits _ ih =>
      simp only [List.map_cons, List.map_nil, List.cons.injEq, and_true] at hdigits
      obtain ⟨ha, hb, hc, hd⟩ := hdigits
      have hrun : Lexer.run (.string seen) ('\\' :: 'u' :: a :: b :: c :: d :: (chars ++ rest)) =
          Lexer.run (.string (.ofEscape (16 * (16 * (16 * i + j) + k) + l) :: seen))
            (chars ++ rest) := by
        simp [Lexer.run, Lexer.next, ha, hb, hc, hd]
      simp only [List.cons_append, hrun, ih, List.reverse_cons, List.append_assoc,
        List.nil_append]

theorem SpellsPieces.cuts {pieces : List Piece} {chars : List Char}
    (h : SpellsPieces pieces chars) (rest : List Char) :
    Cuts (['"'] ++ chars ++ ['"']) [.scalar (.string ((textOf pieces).map String.ofList))]
      rest := by
  have hopen (inside : List Char) : tokens? ('"' :: inside) = Lexer.run (.string []) inside := by
    simp [tokens?, Lexer.run, Lexer.next, Lexer.start, isBlank]
  have hchars : ['"'] ++ chars ++ ['"'] ++ rest = '"' :: (chars ++ '"' :: rest) := by simp
  rw [Cuts, hchars, hopen, h.run, run_closingQuote, List.append_nil, List.reverse_reverse]
  rfl

theorem spellsPieces_chars {chars : List Char}
    (h : ∀ c ∈ chars, c ≠ '"' ∧ c ≠ '\\' ∧ 0x20 ≤ c.toNat) :
    SpellsPieces (chars.map .char) chars := by
  induction chars with
  | nil => exact .nil
  | cons c chars ih =>
      obtain ⟨hquote, hbackslash, hcontrol⟩ := h c List.mem_cons_self
      exact .char hquote hbackslash hcontrol (ih fun d hd => h d (List.mem_cons_of_mem _ hd))

/-- Texts without quotes, backslashes and control characters need no escapes. -/
theorem spells_text {text : String}
    (h : ∀ c ∈ text.toList, c ≠ '"' ∧ c ≠ '\\' ∧ 0x20 ≤ c.toNat) :
    Spells (.text text) (['"'] ++ text.toList ++ ['"']) := by
  have hspells := Spells.string (spellsPieces_chars h)
  rw [textOf_chars, Option.map_some, String.ofList_toList] at hspells
  exact hspells

/-! ## White space -/

theorem IsBlank.cuts {chars : List Char} (h : IsBlank chars) (rest : List Char) :
    Cuts chars [] rest := by
  induction chars with
  | nil => exact cuts_nil rest
  | cons c chars ih =>
      have hstart : Lexer.start c = some (.between, []) := by
        simp [Lexer.start, h c List.mem_cons_self]
      have hrest := ih fun d hd => h d (List.mem_cons_of_mem _ hd)
      unfold Cuts tokens? at hrest ⊢
      simp [Lexer.run, Lexer.next, hstart, hrest]

theorem IsBlank.isPlain {chars rest : List Char} (h : IsBlank chars) (hrest : IsPlain rest) :
    IsPlain (chars ++ rest) := by
  cases chars with
  | nil => exact hrest
  | cons c chars =>
      have hblank : isBlank c = true := h c List.mem_cons_self
      simp only [isBlank, Bool.or_eq_true, beq_iff_eq] at hblank
      rcases hblank with ((rfl | rfl) | rfl) | rfl <;> exact isPlain_cons rfl _

/-! ## Values -/

open Value in
mutual

/-- A spelled value is cut into the tokens of the value. -/
theorem Spells.cuts : ∀ {v : Value} {chars : List Char}, Spells v chars →
    ∀ {rest : List Char}, IsPlain rest → Cuts chars v.tokens rest
  | _, _, .null, _, hrest => isWord_null.cuts hrest
  | _, _, .true, _, hrest => isWord_true.cuts hrest
  | _, _, .false, _, hrest => isWord_false.cuts hrest
  | _, _, .number h, _, hrest => by
      rw [tokens_of_isScalar h.isScalar]
      exact h.isWord.cuts hrest
  | _, _, .string h, rest, _ => h.cuts rest
  | _, _, .array h, rest, _ => by
      have hopen (more : List Char) : Cuts ['['] [.openArray] more := cuts_punctuation rfl more
      have hclose : Cuts [']'] [.closeArray] rest := cuts_punctuation rfl rest
      have hplain : IsPlain ([']'] ++ rest) := isPlain_cons rfl rest
      exact ((hopen _).append (h.cuts hplain)).append hclose
  | _, _, .object h, rest, _ => by
      have hopen (more : List Char) : Cuts ['\x7b'] [.openObject] more := cuts_punctuation rfl more
      have hclose : Cuts ['\x7d'] [.closeObject] rest := cuts_punctuation rfl rest
      have hplain : IsPlain (['\x7d'] ++ rest) := isPlain_cons rfl rest
      exact ((hopen _).append (h.cuts hplain)).append hclose
  | _, _, .spaced hbefore hafter h, rest, hrest => by
      have hvalue := (hbefore.cuts _).append (h.cuts (hafter.isPlain hrest))
      have hspaced := hvalue.append (hafter.cuts rest)
      rwa [List.nil_append, List.append_nil] at hspaced

theorem SpellsItems.cuts : ∀ {items : List Value} {chars : List Char}, SpellsItems items chars →
    ∀ {rest : List Char}, IsPlain rest → Cuts chars (itemTokens items) rest
  | _, _, .none h, rest, _ => h.cuts rest
  | _, _, .last h, _, hrest => h.cuts hrest
  | _, _, .next h hmore, _, hrest => by
      have hcomma (more : List Char) : Cuts [','] [.comma] more := cuts_punctuation rfl more
      exact (h.cuts (isPlain_cons rfl _)).append ((hcomma _).append (hmore.cuts hrest))

theorem SpellsMembers.cuts : ∀ {members : List Member} {chars : List Char},
    SpellsMembers members chars →
    ∀ {rest : List Char}, IsPlain rest → Cuts chars (memberTokens members) rest
  | _, _, .none h, rest, _ => h.cuts rest
  | _, _, .last hkey h, _, hrest => by
      have hcolon (more : List Char) : Cuts [':'] [.colon] more := cuts_punctuation rfl more
      exact (hkey.cuts (isPlain_cons rfl _)).append ((hcolon _).append (h.cuts hrest))
  | _, _, @SpellsMembers.next k v m more _ _ _ hkey h hmore, _, hrest => by
      have hcolon (more : List Char) : Cuts [':'] [.colon] more := cuts_punctuation rfl more
      have hcomma (more : List Char) : Cuts [','] [.comma] more := cuts_punctuation rfl more
      have hvalue := (h.cuts (isPlain_cons rfl _)).append ((hcomma _).append (hmore.cuts hrest))
      show Cuts _ ([.scalar (.string k)] ++ ([.colon] ++ (v.tokens ++
        ([.comma] ++ memberTokens (m :: more))))) _
      exact (hkey.cuts (isPlain_cons rfl _)).append ((hcolon _).append hvalue)

end

/-- A value is read back from each of its texts. -/
theorem Value.ofText?_of_spells {v : Value} {text : String} (h : Spells v text.toList) :
    ofText? text = some v := by
  have hcuts : Cuts text.toList v.tokens [] := h.cuts trivial
  unfold Cuts at hcuts
  rw [List.append_nil] at hcuts
  have htokens : tokens? text.toList = some v.tokens := by
    rw [hcuts]
    simp [tokens?, Lexer.run, Lexer.finish]
  have hleads : v.tokens.foldlM Reader.next (.value .top) = some (.after v .top) :=
    leads_tokens v .top
  simp [ofText?, htokens, ofTokens?, hleads, Reader.result]

end VirtualCamera.Json
