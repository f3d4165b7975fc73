import Mathlib.Data.Int.Notation
import Mathlib.Data.Nat.Notation
import Mathlib.Tactic.SplitIfs

/-!
# Pieces of a text

Cutting a text, as a list of characters, at separators, and reading numbers from it. The functions
follow the methods of the same names on Rust's `str`.
-/

namespace Text

/-- What follows `pattern` at the start of a text. -/
def stripPrefix (pattern text : List Char) : Option (List Char) :=
  if pattern <+: text then some (text.drop pattern.length) else none

/-- What stands before and after the first occurrence of `pattern`. -/
def splitOnce (pattern : List Char) : List Char → Option (List Char × List Char)
  | [] => (stripPrefix pattern []).map ([], ·)
  | c :: cs =>
    match stripPrefix pattern (c :: cs) with
    | some rest => some ([], rest)
    | none => (splitOnce pattern cs).map fun (before, after) => (c :: before, after)

/-- The pieces between the occurrences of a separator. There is always at least one. -/
def split (separator : Char) : List Char → List (List Char)
  | [] => [[]]
  | c :: cs =>
    if c = separator then [] :: split separator cs
    else (split separator cs).modifyHead (c :: ·)

/-- At most `n` pieces, of which the last one is the rest of the text. -/
def splitn (separator : Char) : ℕ → List Char → List (List Char)
  | 0, _ => []
  | 1, text => [text]
  | n + 2, text =>
    match splitOnce [separator] text with
    | some (before, after) => before :: splitn separator (n + 1) after
    | none => [text]

/-- The characters with the property `White_Space`. -/
def isWhitespace (c : Char) : Bool :=
  (9 ≤ c.toNat && c.toNat ≤ 13) || c.toNat = 0x20 || c.toNat = 0x85 || c.toNat = 0xA0 ||
    c.toNat = 0x1680 || (0x2000 ≤ c.toNat && c.toNat ≤ 0x200A) || c.toNat = 0x2028 ||
    c.toNat = 0x2029 || c.toNat = 0x202F || c.toNat = 0x205F || c.toNat = 0x3000

/-- A text without the white space around it. -/
def trim (text : List Char) : List Char :=
  ((text.dropWhile isWhitespace).reverse.dropWhile isWhitespace).reverse

/-- The number that decimal digits write, if there are any and nothing else. -/
def parseDigits (text : List Char) : Option ℕ :=
  if text ≠ [] ∧ text.all Char.isDigit then
    some (text.foldl (fun n c => 10 * n + (c.toNat - '0'.toNat)) 0)
  else none

/-- `parse` at an unsigned type with `bound` values: a sign `+` may come first. -/
def parseUnsigned (bound : ℕ) (text : List Char) : Option ℕ :=
  (parseDigits ((stripPrefix ['+'] text).getD text)).filter (· < bound)

/-- The number that decimal digits write after a sign, which may be missing. -/
def parseInteger (text : List Char) : Option ℤ :=
  match stripPrefix ['-'] text with
  | some digits => (parseDigits digits).map fun n => -(n : ℤ)
  | none => (parseDigits ((stripPrefix ['+'] text).getD text)).map fun n => (n : ℤ)

/-- A text without the given character around it. -/
def trimMatches (c : Char) (text : List Char) : List Char :=
  ((text.dropWhile (· = c)).reverse.dropWhile (· = c)).reverse

/-! ## The first separator -/

variable {separator : Char} {pattern before after text : List Char}

/-- A pattern that begins with a separator is found at the first separator, or after it. -/
theorem splitOnce_append (h : separator ∉ before) :
    splitOnce (separator :: pattern) (before ++ separator :: after) =
      if pattern <+: after then some (before, after.drop pattern.length)
      else (splitOnce (separator :: pattern) after).map fun (b, a) =>
        (before ++ separator :: b, a) := by
  induction before with
  | nil =>
    rw [List.nil_append, splitOnce]
    unfold stripPrefix
    simp only [List.cons_prefix_cons, true_and]
    split_ifs <;> rfl
  | cons c before ih =>
    obtain ⟨hc, hbefore⟩ := not_or.mp (mt List.mem_cons.mpr h)
    have hstrip : stripPrefix (separator :: pattern)
        (c :: (before ++ separator :: after)) = none := by
      refine if_neg fun hpre => hc ?_
      exact (List.cons_prefix_cons.mp hpre).1
    rw [List.cons_append, splitOnce, hstrip]
    dsimp only
    rw [ih hbefore]
    split_ifs
    · rfl
    · rw [Option.map_map]
      rfl

/-- What is found at a separator is what stands before and after the first one. -/
theorem eq_append_of_splitOnce (h : splitOnce [separator] text = some (before, after)) :
    separator ∉ before ∧ text = before ++ separator :: after := by
  induction text generalizing before with
  | nil => cases h
  | cons c text ih =>
    rw [splitOnce] at h
    unfold stripPrefix at h
    by_cases hc : separator = c
    · rw [if_pos (by rw [hc]; exact ⟨text, rfl⟩)] at h
      obtain ⟨rfl, rfl⟩ := Prod.mk.inj (Option.some.inj h)
      exact ⟨List.not_mem_nil, by rw [hc]; rfl⟩
    · rw [if_neg fun hpre => hc (List.cons_prefix_cons.mp hpre).1] at h
      obtain ⟨⟨before', after'⟩, hsplit, heq⟩ := Option.map_eq_some_iff.mp h
      obtain ⟨rfl, rfl⟩ := Prod.mk.inj heq
      obtain ⟨hbefore, rfl⟩ := ih hsplit
      exact ⟨mt List.mem_cons.mp (not_or.mpr ⟨hc, hbefore⟩), rfl⟩

/-- What is found at a separator is what stands before and after the first one, and nothing else. -/
theorem splitOnce_eq_some_iff : splitOnce [separator] text = some (before, after) ↔
    separator ∉ before ∧ text = before ++ separator :: after := by
  constructor
  · exact eq_append_of_splitOnce
  · rintro ⟨hbefore, rfl⟩
    rw [splitOnce_append hbefore, if_pos List.nil_prefix]
    rfl

/-- There is one way to cut a text at its first separator. -/
theorem append_cons_inj {before' after' : List Char} (h : separator ∉ before)
    (h' : separator ∉ before')
    (heq : before ++ separator :: after = before' ++ separator :: after') :
    before = before' ∧ after = after' := by
  have hfirst : splitOnce [separator] (before ++ separator :: after) = some (before, after) :=
    splitOnce_eq_some_iff.mpr ⟨h, rfl⟩
  rw [splitOnce_eq_some_iff.mpr ⟨h', heq⟩] at hfirst
  exact Prod.mk.inj (Option.some.inj hfirst.symm)

/-- A piece before a separator is cut off. -/
theorem splitn_append (h : separator ∉ before) (n : ℕ) :
    splitn separator (n + 2) (before ++ separator :: after) =
      before :: splitn separator (n + 1) after := by
  rw [splitn, splitOnce_append h, if_pos List.nil_prefix]
  rfl

/-- When there are as many pieces as there may be, the first one was cut off at a separator. -/
theorem exists_of_length_splitn {n : ℕ} (h : (splitn separator (n + 2) text).length = n + 2) :
    ∃ before after, separator ∉ before ∧ text = before ++ separator :: after ∧
      splitn separator (n + 2) text = before :: splitn separator (n + 1) after ∧
      (splitn separator (n + 1) after).length = n + 1 := by
  rw [splitn] at h ⊢
  cases hsplit : splitOnce [separator] text with
  | none =>
    rw [hsplit, List.length_singleton] at h
    omega
  | some pieces =>
    obtain ⟨hbefore, htext⟩ := eq_append_of_splitOnce hsplit
    rw [hsplit, List.length_cons] at h
    exact ⟨pieces.1, pieces.2, hbefore, htext, rfl, Nat.succ.inj h⟩

/-- A pattern without a separator ends before the first separator. -/
theorem prefix_append_cons_iff (h : separator ∉ pattern) :
    pattern <+: before ++ separator :: after ↔ pattern <+: before := by
  constructor
  · intro hpre
    have hpiece : before ++ [separator] <+: before ++ separator :: after := ⟨after, by simp⟩
    rcases List.prefix_or_prefix_of_prefix hpre hpiece with hshort | hlong
    · refine (List.prefix_concat_iff.mp hshort).resolve_left fun heq => h ?_
      rw [heq]
      exact List.mem_append_right _ List.mem_cons_self
    · exact absurd (hlong.subset (List.mem_append_right _ List.mem_cons_self)) h
  · exact fun hpre => hpre.trans (List.prefix_append _ _)

/-! ## All pieces -/

/-- The pieces are those of `List.splitOn`. -/
theorem split_eq_splitOn (separator : Char) (text : List Char) :
    split separator text = text.splitOn separator := by
  induction text with
  | nil => rfl
  | cons c text ih =>
    rw [split, List.splitOn_cons_eq_if_modifyHead, ih]
    simp only [beq_iff_eq]

/-- There is always a first piece. -/
theorem split_ne_nil : split separator text ≠ [] := by
  rw [split_eq_splitOn]
  exact List.splitOn_ne_nil separator text

/-- The pieces around a separator are the pieces on both sides of it. -/
theorem split_append_cons :
    split separator (before ++ separator :: after) =
      split separator before ++ split separator after := by
  simp only [split_eq_splitOn]
  exact List.splitOn_append_cons_self before after

/-- A text without a separator is its only piece. -/
theorem split_of_not_mem (h : separator ∉ text) : split separator text = [text] := by
  rw [split_eq_splitOn]
  exact List.splitOn_eq_singleton h

/-- A piece before a separator is the first one. -/
theorem split_cons_of_not_mem (h : separator ∉ before) :
    split separator (before ++ separator :: after) = before :: split separator after := by
  rw [split_append_cons, split_of_not_mem h, List.singleton_append]

/-- No piece contains a separator. -/
theorem not_mem_of_mem_split {piece : List Char} (h : piece ∈ split separator text) :
    separator ∉ piece := by
  induction text generalizing piece with
  | nil =>
    rw [split, List.mem_singleton] at h
    rw [h]
    exact List.not_mem_nil
  | cons c text ih =>
    rw [split] at h
    split_ifs at h with hc
    · rcases List.mem_cons.mp h with rfl | h
      · exact List.not_mem_nil
      · exact ih h
    · have hne : split separator text ≠ [] := split_ne_nil
      obtain ⟨first, rest, hsplit⟩ := List.exists_cons_of_ne_nil hne
      rw [hsplit, List.modifyHead_cons] at h
      rcases List.mem_cons.mp h with rfl | h
      · have hfirst : separator ∉ first := ih (by rw [hsplit]; exact List.mem_cons_self)
        exact List.not_mem_cons_of_ne_of_not_mem (Ne.symm hc) hfirst
      · exact ih (by rw [hsplit]; exact List.mem_cons_of_mem _ h)

/-- Texts with the same pieces are the same. -/
theorem split_injective {text' : List Char} (h : split separator text = split separator text') :
    text = text' := by
  rw [split_eq_splitOn, split_eq_splitOn] at h
  calc text = [separator].intercalate (text.splitOn separator) :=
        (List.intercalate_splitOn separator).symm
    _ = [separator].intercalate (text'.splitOn separator) := by rw [h]
    _ = text' := List.intercalate_splitOn separator

/-- A text begins with another one and a separator exactly when it has the pieces of that one, and
more. -/
theorem append_singleton_prefix_iff : before ++ [separator] <+: text ↔
    ∃ piece pieces, split separator text = split separator before ++ piece :: pieces := by
  constructor
  · rintro ⟨after, rfl⟩
    have hne : split separator after ≠ [] := split_ne_nil
    obtain ⟨piece, pieces, hsplit⟩ := List.exists_cons_of_ne_nil hne
    refine ⟨piece, pieces, ?_⟩
    rw [List.append_assoc, List.singleton_append, split_append_cons, hsplit]
  · rintro ⟨piece, pieces, hsplit⟩
    have hpieces : ∀ p ∈ piece :: pieces, separator ∉ p := fun p hp =>
      not_mem_of_mem_split (by rw [hsplit]; exact List.mem_append_right _ hp)
    have hafter : split separator ([separator].intercalate (piece :: pieces)) =
        piece :: pieces := by
      rw [split_eq_splitOn]
      exact List.splitOn_intercalate separator hpieces (List.cons_ne_nil _ _)
    have htext : text = before ++ separator :: [separator].intercalate (piece :: pieces) :=
      split_injective (by rw [hsplit, split_append_cons, hafter])
    rw [htext]
    exact ⟨_, by rw [List.append_assoc, List.singleton_append]⟩

end Text
