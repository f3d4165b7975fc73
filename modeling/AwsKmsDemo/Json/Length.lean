import Mathlib.Tactic.SplitIfs
import AwsKmsDemo.Json.Render

/-!
# The length of a compact text

How many bytes `toVec` writes, by the structure of the value.
-/

namespace Json

/-- The number of bytes of a string between its quotes. -/
def textLength (s : String) : ℕ := utf8Length (escape s.toList)

/-- The number of bytes of a value. -/
def valueLength (v : Value) : ℕ := (toVec v).length

/-- The length of a value is that of its compact text. -/
theorem valueLength_eq (v : Value) : valueLength v = utf8Length (render none v) :=
  length_utf8 _

/-- Escaping goes character by character. -/
theorem escape_append (cs ds : List Char) : escape (cs ++ ds) = escape cs ++ escape ds := by
  simp [escape]

/-- The length of two texts in a row. -/
@[simp] theorem textLength_append (s t : String) :
    textLength (s ++ t) = textLength s + textLength t := by
  unfold textLength
  rw [String.toList_append, escape_append, utf8Length_append]

/-- The quotes of a string count. -/
theorem utf8Length_renderString (s : String) : utf8Length (renderString s) = textLength s + 2 := by
  have hquote : Char.utf8Size '"' = 1 := by decide
  unfold renderString textLength
  simp only [utf8Length_append, utf8Length_cons, utf8Length_nil, hquote]
  omega

/-- The length of a string. -/
theorem valueLength_str (s : String) : valueLength (.str s) = textLength s + 2 := by
  rw [valueLength_eq]
  exact utf8Length_renderString s

/-- An object with one member. -/
theorem valueLength_obj_singleton (name : String) (v : Value) :
    valueLength (.obj [(name, v)]) = textLength name + valueLength v + 5 := by
  have hopen : Char.utf8Size '{' = 1 := by decide
  have hcolon : Char.utf8Size ':' = 1 := by decide
  have hclose : Char.utf8Size '}' = 1 := by decide
  have hrender : render none (.obj [(name, v)]) =
      '{' :: (renderString name ++ (':' :: (render none v ++ ['}']))) := by
    simp [render, renderMembers, lineBreak, deeper, colon]
  rw [valueLength_eq, valueLength_eq, hrender]
  simp only [utf8Length_cons, utf8Length_append, utf8Length_nil, utf8Length_renderString]
  omega

/-- An object with a member before others. -/
theorem valueLength_obj_cons (name : String) (v : Value) (m : String × Value)
    (ms : List (String × Value)) :
    valueLength (.obj ((name, v) :: m :: ms)) =
      textLength name + valueLength v + 4 + valueLength (.obj (m :: ms)) := by
  have hcolon : Char.utf8Size ':' = 1 := by decide
  have hcomma : Char.utf8Size ',' = 1 := by decide
  rw [valueLength_eq, valueLength_eq, valueLength_eq]
  simp only [render, renderMembers, lineBreak, deeper, colon, Option.map_none, List.append_assoc,
    List.nil_append, List.cons_append, utf8Length_cons, utf8Length_append, utf8Length_nil,
    utf8Length_renderString]
  omega

/-- The length of an empty array. -/
theorem valueLength_arr_nil : valueLength (.arr []) = 2 := by decide

/-- An array with one element. -/
theorem valueLength_arr_singleton (v : Value) : valueLength (.arr [v]) = valueLength v + 2 := by
  have hopen : Char.utf8Size '[' = 1 := by decide
  have hclose : Char.utf8Size ']' = 1 := by decide
  rw [valueLength_eq, valueLength_eq]
  simp only [render, renderElements, lineBreak, deeper, Option.map_none, List.append_assoc,
    List.nil_append, List.cons_append, utf8Length_cons, utf8Length_append, utf8Length_nil]
  omega

/-- An array with an element before others. -/
theorem valueLength_arr_cons (v w : Value) (ws : List Value) :
    valueLength (.arr (v :: w :: ws)) = valueLength v + 1 + valueLength (.arr (w :: ws)) := by
  have hcomma : Char.utf8Size ',' = 1 := by decide
  rw [valueLength_eq, valueLength_eq, valueLength_eq]
  simp only [render, renderElements, lineBreak, deeper, Option.map_none, List.append_assoc,
    List.nil_append, List.cons_append, utf8Length_cons, utf8Length_append, utf8Length_nil]
  omega

/-! ## Bounds -/

/-- Escaping makes at most six bytes of a character. -/
theorem utf8Length_escapeChar_le (c : Char) : utf8Length (escapeChar c) ≤ 6 := by
  have hdigit : ∀ n, (hexDigit n).utf8Size = 1 := by
    intro n
    by_cases hn : n < 16
    · have hall : ∀ i : Fin 16, (hexDigit i).utf8Size = 1 := by decide
      exact hall ⟨n, hn⟩
    · have hdefault : hexDigit n = '0' := by
        unfold hexDigit
        rw [List.getD_eq_getElem?_getD, List.getElem?_eq_none (Nat.not_lt.mp hn)]
        rfl
      rw [hdefault]
      decide
  have hself := c.utf8Size_le_four
  unfold escapeChar
  split_ifs
  any_goals decide
  · have hfixed : utf8Length ['\\', 'u', '0', '0'] = 4 := by decide
    rw [show ['\\', 'u', '0', '0', hexDigit (c.toNat / 16), hexDigit (c.toNat % 16)] =
      ['\\', 'u', '0', '0'] ++ [hexDigit (c.toNat / 16), hexDigit (c.toNat % 16)] from rfl]
    simp only [utf8Length_append, hfixed, utf8Length_cons, utf8Length_nil, hdigit]
    omega
  · rw [utf8Length_cons, utf8Length_nil]
    omega

/-- The text of a string is at most six times as long. -/
theorem textLength_le (s : String) : textLength s ≤ 6 * s.toList.length := by
  have hall : ∀ cs : List Char, utf8Length (escape cs) ≤ 6 * cs.length := by
    intro cs
    induction cs with
    | nil => exact Nat.le_refl _
    | cons c cs ih =>
      have hc := utf8Length_escapeChar_le c
      rw [show escape (c :: cs) = escapeChar c ++ escape cs from rfl, utf8Length_append,
        List.length_cons]
      omega
  exact hall s.toList

/-- The text of an array is longer than the array. -/
theorem length_le_valueLength_arr (vs : List Value) (h : ∀ v ∈ vs, 1 ≤ valueLength v) :
    vs.length ≤ valueLength (.arr vs) := by
  induction vs with
  | nil => exact Nat.zero_le _
  | cons v vs ih =>
    have hv := h v List.mem_cons_self
    cases vs with
    | nil =>
      rw [valueLength_arr_singleton, List.length_singleton]
      omega
    | cons w ws =>
      have hrest := ih fun v' hv' => h v' (List.mem_cons_of_mem _ hv')
      rw [valueLength_arr_cons, List.length_cons]
      omega

/-- The text of an array, by a bound for its elements. -/
theorem valueLength_arr_le {vs : List Value} {n : ℕ} (h : ∀ v ∈ vs, valueLength v ≤ n) :
    valueLength (.arr vs) ≤ (n + 1) * vs.length + 2 := by
  induction vs with
  | nil => exact Nat.le_of_eq valueLength_arr_nil
  | cons v vs ih =>
    have hv := h v List.mem_cons_self
    cases vs with
    | nil =>
      rw [valueLength_arr_singleton, List.length_singleton]
      omega
    | cons w ws =>
      have hrest := ih fun v' hv' => h v' (List.mem_cons_of_mem _ hv')
      rw [valueLength_arr_cons, List.length_cons, Nat.mul_succ]
      omega

/-! ## The indented text -/

/-- The number of bytes of a value in the indented text, at a depth. -/
def indentedLength (depth : ℕ) (v : Value) : ℕ := utf8Length (render (some depth) v)

/-- The length of an indented text. -/
theorem length_toVecPretty (v : Value) : (toVecPretty v).length = indentedLength 0 v :=
  length_utf8 _

/-- A string is as long indented as compact. -/
theorem indentedLength_str (depth : ℕ) (s : String) :
    indentedLength depth (.str s) = textLength s + 2 :=
  utf8Length_renderString s

/-- A line break with its indentation. -/
theorem utf8Length_lineBreak (depth : ℕ) : utf8Length (lineBreak (some depth)) = 2 * depth + 1 := by
  have hblank : Char.utf8Size ' ' = 1 := by decide
  have hnewline : Char.utf8Size '\n' = 1 := by decide
  have hblanks : ∀ n, utf8Length (List.replicate n ' ') = n := by
    intro n
    induction n with
    | zero => rfl
    | succ n ih =>
      rw [List.replicate_succ, utf8Length_cons, ih, hblank]
      omega
  unfold lineBreak
  rw [utf8Length_cons, hblanks, hnewline]
  omega

/-- An object with one member. -/
theorem indentedLength_obj_singleton (depth : ℕ) (name : String) (v : Value) :
    indentedLength depth (.obj [(name, v)]) =
      textLength name + indentedLength (depth + 1) v + 4 * depth + 10 := by
  have hopen : Char.utf8Size '\x7b' = 1 := by decide
  have hcolon : Char.utf8Size ':' = 1 := by decide
  have hblank : Char.utf8Size ' ' = 1 := by decide
  have hclose : Char.utf8Size '\x7d' = 1 := by decide
  unfold indentedLength
  simp only [render, renderMembers, colon, deeper, Option.map_some, utf8Length_append,
    utf8Length_cons, utf8Length_nil, utf8Length_renderString, utf8Length_lineBreak, hopen, hcolon,
    hblank, hclose]
  omega

/-- An object with a member before others. -/
theorem indentedLength_obj_cons (depth : ℕ) (name : String) (v : Value) (m : String × Value)
    (ms : List (String × Value)) :
    indentedLength depth (.obj ((name, v) :: m :: ms)) =
      textLength name + indentedLength (depth + 1) v + 2 * depth + 8 +
        indentedLength depth (.obj (m :: ms)) := by
  have hcomma : Char.utf8Size ',' = 1 := by decide
  have hcolon : Char.utf8Size ':' = 1 := by decide
  have hblank : Char.utf8Size ' ' = 1 := by decide
  unfold indentedLength
  simp only [render, renderMembers, colon, deeper, Option.map_some, utf8Length_append,
    utf8Length_cons, utf8Length_nil, utf8Length_renderString, utf8Length_lineBreak, hcomma, hcolon,
    hblank]
  omega

/-- An array with one element. -/
theorem indentedLength_arr_singleton (depth : ℕ) (v : Value) :
    indentedLength depth (.arr [v]) = indentedLength (depth + 1) v + 4 * depth + 6 := by
  have hopen : Char.utf8Size '[' = 1 := by decide
  have hclose : Char.utf8Size ']' = 1 := by decide
  unfold indentedLength
  simp only [render, renderElements, deeper, Option.map_some, utf8Length_append, utf8Length_cons,
    utf8Length_nil, utf8Length_lineBreak, hopen, hclose]
  omega

/-- An array with an element before others. -/
theorem indentedLength_arr_cons (depth : ℕ) (v w : Value) (ws : List Value) :
    indentedLength depth (.arr (v :: w :: ws)) =
      indentedLength (depth + 1) v + 2 * depth + 4 + indentedLength depth (.arr (w :: ws)) := by
  have hcomma : Char.utf8Size ',' = 1 := by decide
  unfold indentedLength
  simp only [render, renderElements, deeper, Option.map_some, utf8Length_append, utf8Length_cons,
    utf8Length_nil, utf8Length_lineBreak, hcomma]
  omega

end Json
