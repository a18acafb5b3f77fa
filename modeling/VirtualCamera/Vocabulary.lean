/-!
# Words for the members of an enumeration

Every enumeration of this library is written as a fixed word per member: in
JSON texts, in diagnostics and in templates.  `Vocabulary` lists the members
and their words, and requires that no word is used twice, so reading a word
back finds exactly the member it was written for (`ofWord?_eq_some_iff`).
-/

namespace VirtualCamera

/-- A finite enumeration with one word per member. -/
class Vocabulary (α : Type) where
  members : List α
  word : α → String
  mem_members : ∀ a : α, a ∈ members := by intro a; cases a <;> decide
  nodup_words : (members.map word).Nodup := by decide

namespace Vocabulary

/-- A function with distinct values on a list tells the members of the list
apart. -/
theorem eq_of_nodup_map {α β : Type} {f : α → β} {l : List α} (h : (l.map f).Nodup) {a b : α}
    (ha : a ∈ l) (hb : b ∈ l) (hab : f a = f b) : a = b := by
  induction l with
  | nil => cases ha
  | cons x rest ih =>
    rw [List.map_cons, List.nodup_cons] at h
    obtain ⟨hx, hrest⟩ := h
    rcases List.mem_cons.mp ha with hax | ha' <;> rcases List.mem_cons.mp hb with hbx | hb'
    · rw [hax, hbx]
    · rw [← hax, hab] at hx
      exact absurd (List.mem_map_of_mem hb') hx
    · rw [← hbx, ← hab] at hx
      exact absurd (List.mem_map_of_mem ha') hx
    · exact ih hrest ha' hb'

variable {α : Type} [Vocabulary α]

theorem word_inj {a b : α} (h : word a = word b) : a = b :=
  eq_of_nodup_map nodup_words (mem_members a) (mem_members b) h

def ofWord? (text : String) : Option α :=
  (members : List α).find? fun a => word a == text

theorem ofWord?_word (a : α) : ofWord? (word a) = some a := by
  unfold ofWord?
  cases h : (members : List α).find? fun b => word b == word a with
  | none =>
    have := List.find?_eq_none.mp h a (mem_members a)
    simp at this
  | some b =>
    have := List.find?_some h
    exact congrArg some (word_inj (eq_of_beq this))

theorem word_of_ofWord? {text : String} {a : α} (h : ofWord? text = some a) :
    word a = text := by
  unfold ofWord? at h
  have := List.find?_some h
  exact eq_of_beq this

theorem ofWord?_eq_some_iff {text : String} {a : α} :
    ofWord? text = some a ↔ word a = text :=
  ⟨word_of_ofWord?, fun h => h ▸ ofWord?_word a⟩

end Vocabulary

end VirtualCamera
