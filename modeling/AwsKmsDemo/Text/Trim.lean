import Mathlib.Data.List.DropRight
import AwsKmsDemo.Text.Pieces

/-!
# Trimming

What is left of a text without the characters of one kind around it. `trim` and `trimMatches` are
two cases of this.
-/

namespace Text

variable {p : Char → Bool} {text : List Char}

/-- A text without the characters of a kind around it. -/
def strip (p : Char → Bool) (text : List Char) : List Char := (text.dropWhile p).rdropWhile p

/-- `trim` strips whitespace. -/
theorem trim_eq_strip : trim = strip isWhitespace := rfl

/-- `trim_matches` strips one character. -/
theorem trimMatches_eq_strip (c : Char) : trimMatches c = strip (· = c) := rfl

/-- A text that neither begins nor ends with a character of a kind. -/
structure Bare (p : Char → Bool) (text : List Char) : Prop where
  head : ∀ h : text ≠ [], ¬ p (text.head h)
  last : ∀ h : text ≠ [], ¬ p (text.getLast h)

/-- The empty text is bare. -/
theorem bare_nil : Bare p [] where
  head h := absurd rfl h
  last h := absurd rfl h

/-- What is left is bare. -/
theorem bare_strip : Bare p (strip p text) where
  head h := by
    have hpre : strip p text <+: text.dropWhile p := List.rdropWhile_prefix p _
    have hne : text.dropWhile p ≠ [] := fun hnil => h (List.prefix_nil.mp (hnil ▸ hpre))
    have hhead : (strip p text).head h = (text.dropWhile p).head hne := hpre.head h
    rw [hhead, List.head_dropWhile_not p hne]
    exact Bool.false_ne_true
  last h := List.rdropWhile_last_not p _ h

/-- A text is what is left of it between characters of the kind. -/
theorem exists_strip (p : Char → Bool) (text : List Char) :
    ∃ left right, text = left ++ strip p text ++ right ∧ (∀ c ∈ left, p c) ∧ ∀ c ∈ right, p c := by
  refine ⟨text.takeWhile p, (text.dropWhile p).rtakeWhile p, ?_, fun c hc => ?_, fun c hc => ?_⟩
  · calc text = text.takeWhile p ++ text.dropWhile p := List.takeWhile_append_dropWhile.symm
      _ = text.takeWhile p ++ (strip p text ++ (text.dropWhile p).rtakeWhile p) := by
        rw [strip, List.rdropWhile_append_rtakeWhile]
      _ = text.takeWhile p ++ strip p text ++ (text.dropWhile p).rtakeWhile p :=
        (List.append_assoc _ _ _).symm
  · exact List.mem_takeWhile_imp hc
  · exact List.mem_rtakeWhile_imp hc

/-- A bare text is what is left of it between characters of the kind. -/
theorem strip_append {left right : List Char} (hleft : ∀ c ∈ left, p c) (hright : ∀ c ∈ right, p c)
    (h : Bare p text) : strip p (left ++ text ++ right) = text := by
  have hreverse : ∀ c ∈ right.reverse, p c := fun c hc => hright c (List.mem_reverse.mp hc)
  rw [strip, List.append_assoc, List.dropWhile_append_of_pos hleft]
  by_cases hnil : text = []
  · rw [hnil, List.nil_append, List.dropWhile_eq_nil_iff.mpr hright, List.rdropWhile_nil]
  · obtain ⟨c, cs, rfl⟩ := List.exists_cons_of_ne_nil hnil
    have hhead : ¬ p c := h.head hnil
    rw [List.cons_append, List.dropWhile_cons_of_neg hhead, ← List.cons_append,
      List.rdropWhile, List.reverse_append, List.dropWhile_append_of_pos hreverse]
    exact List.rdropWhile_eq_self_iff.mpr h.last

/-- What is left of a bare text is the text. -/
theorem strip_of_bare (h : Bare p text) : strip p text = text := by
  have hnone : ∀ c ∈ ([] : List Char), p c := fun c hc => absurd hc List.not_mem_nil
  simpa using strip_append hnone hnone h

/-- Characters of the kind around a text do not matter. -/
theorem strip_append_append {left right : List Char} (hleft : ∀ c ∈ left, p c)
    (hright : ∀ c ∈ right, p c) : strip p (left ++ text ++ right) = strip p text := by
  obtain ⟨left', right', htext, hleft', hright'⟩ := exists_strip p text
  have hall : left ++ text ++ right = left ++ left' ++ strip p text ++ (right' ++ right) := by
    conv_lhs => rw [htext]
    simp only [List.append_assoc]
  rw [hall]
  refine strip_append (fun c hc => ?_) (fun c hc => ?_) bare_strip
  · exact (List.mem_append.mp hc).elim (hleft c) (hleft' c)
  · exact (List.mem_append.mp hc).elim (hright' c) (hright c)

/-- Nothing is left of a text of such characters only. -/
theorem strip_eq_nil_iff : strip p text = [] ↔ ∀ c ∈ text, p c := by
  constructor
  · intro hnil
    obtain ⟨left, right, htext, hleft, hright⟩ := exists_strip p text
    rw [htext, hnil, List.append_nil]
    exact fun c hc => (List.mem_append.mp hc).elim (hleft c) (hright c)
  · intro h
    have hnone : ∀ c ∈ ([] : List Char), p c := fun c hc => absurd hc List.not_mem_nil
    simpa using strip_append h hnone bare_nil

end Text
