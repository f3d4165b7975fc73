import Mathlib.Tactic.SplitIfs
import AwsKmsDemo.Json.Render

/-!
# Reading JSON texts

A parser for JSON values without fractions, and that it undoes `render`, the compact text as well as
the indented one. The parser works on the characters of a text. Its recursion is over a fuel, of
which the length of the text is enough.
-/

namespace Json

/-! ## The parser -/

/-- White space between the tokens of a text. -/
def isBlank (c : Char) : Bool := c = ' ' || c = '\n' || c = '\t' || c = '\r'

/-- What follows the white space at the start of a text. -/
def skipBlanks (cs : List Char) : List Char := cs.dropWhile isBlank

/-- The number that a hexadecimal digit stands for. -/
def hexValue (c : Char) : Option ℕ :=
  if '0' ≤ c ∧ c ≤ '9' then some (c.toNat - '0'.toNat)
  else if 'a' ≤ c ∧ c ≤ 'f' then some (c.toNat - 'a'.toNat + 10)
  else if 'A' ≤ c ∧ c ≤ 'F' then some (c.toNat - 'A'.toNat + 10)
  else none

/-- The character that an escape of one letter stands for. -/
def escapedChar (c : Char) : Option Char :=
  if c = '"' then some '"'
  else if c = '\\' then some '\\'
  else if c = '/' then some '/'
  else if c = 'n' then some '\n'
  else if c = 'r' then some '\r'
  else if c = 't' then some '\t'
  else if c = 'b' then some (Char.ofNat 8)
  else if c = 'f' then some (Char.ofNat 12)
  else none

/-- The first character of the rest of a string, and what follows it. Escaped surrogates are not
read. -/
def parseChar : List Char → Option (Char × List Char)
  | [] => none
  | c :: cs =>
    if c = '\\' then
      match cs with
      | 'u' :: h₃ :: h₂ :: h₁ :: h₀ :: rest => do
        let n := 16 * (16 * (16 * (← hexValue h₃) + (← hexValue h₂)) + (← hexValue h₁)) +
          (← hexValue h₀)
        if n < 0xD800 ∨ 0xDFFF < n then some (Char.ofNat n, rest) else none
      | e :: rest => (escapedChar e).map (·, rest)
      | [] => none
    else if c.toNat < 32 then none
    else some (c, cs)

/-- The rest of a string after its opening quote, and what follows its closing quote. -/
def parseChars : ℕ → List Char → Option (List Char × List Char)
  | 0, _ => none
  | fuel + 1, cs =>
    match cs with
    | '"' :: rest => some ([], rest)
    | cs => do
      let (c, rest) ← parseChar cs
      let (more, rest) ← parseChars fuel rest
      some (c :: more, rest)

/-- A number at the start of a text, and what follows it. -/
def parseNat (cs : List Char) : Option (ℕ × List Char) :=
  let digits := cs.takeWhile Char.isDigit
  if digits = [] then none else some (Nat.ofDigitChars 10 digits 0, cs.dropWhile Char.isDigit)

/-- A value without structure at the start of a text, and what follows it. -/
def parseScalar : List Char → Option (Value × List Char)
  | 'n' :: 'u' :: 'l' :: 'l' :: rest => some (.null, rest)
  | 't' :: 'r' :: 'u' :: 'e' :: rest => some (.bool true, rest)
  | 'f' :: 'a' :: 'l' :: 's' :: 'e' :: rest => some (.bool false, rest)
  | '-' :: rest => (parseNat rest).map fun (n, rest) => (.num (-n), rest)
  | cs => (parseNat cs).map fun (n, rest) => (.num n, rest)

/-- A name and the colon after it, and what follows them. -/
def parseName (cs : List Char) : Option (String × List Char) :=
  match skipBlanks cs with
  | '"' :: rest => do
    let (name, rest) ← parseChars (rest.length + 1) rest
    match skipBlanks rest with
    | ':' :: rest => some (String.ofList name, rest)
    | _ => none
  | _ => none

mutual

/-- A value at the start of a text, and what follows it. -/
def parseValue : ℕ → List Char → Option (Value × List Char)
  | 0, _ => none
  | fuel + 1, cs =>
    match skipBlanks cs with
    | '"' :: rest => (parseChars (rest.length + 1) rest).map fun (s, rest) =>
      (.str (String.ofList s), rest)
    | '[' :: rest =>
      match skipBlanks rest with
      | ']' :: rest => some (.arr [], rest)
      | rest => (parseElements fuel rest).map fun (vs, rest) => (.arr vs, rest)
    | '{' :: rest =>
      match skipBlanks rest with
      | '}' :: rest => some (.obj [], rest)
      | rest => (parseMembers fuel rest).map fun (ms, rest) => (.obj ms, rest)
    | cs => parseScalar cs

/-- The elements of an array that is not empty, and what follows its bracket. -/
def parseElements : ℕ → List Char → Option (List Value × List Char)
  | 0, _ => none
  | fuel + 1, cs => do
    let (v, rest) ← parseValue fuel cs
    match skipBlanks rest with
    | ']' :: rest => some ([v], rest)
    | ',' :: rest =>
      let (vs, rest) ← parseElements fuel rest
      some (v :: vs, rest)
    | _ => none

/-- The members of an object that is not empty, and what follows its brace. -/
def parseMembers : ℕ → List Char → Option (List (String × Value) × List Char)
  | 0, _ => none
  | fuel + 1, cs => do
    let (name, rest) ← parseName cs
    let (v, rest) ← parseValue fuel rest
    match skipBlanks rest with
    | '}' :: rest => some ([(name, v)], rest)
    | ',' :: rest =>
      let (ms, rest) ← parseMembers fuel rest
      some ((name, v) :: ms, rest)
    | _ => none

end

/-- The value that a whole text stands for. -/
def parse (cs : List Char) : Option Value :=
  match parseValue (cs.length + 1) cs with
  | some (v, rest) => if skipBlanks rest = [] then some v else none
  | none => none

/-! ## Strings -/

/-- The value of a digit is what it was made from. -/
theorem hexValue_hexDigit {n : ℕ} (hn : n < 16) : hexValue (hexDigit n) = some n := by
  have hall : ∀ i : Fin 16, hexValue (hexDigit i) = some i.val := by decide
  exact hall ⟨n, hn⟩

/-- Reading undoes escaping a character. -/
theorem parseChar_escapeChar (c : Char) (rest : List Char) :
    parseChar (escapeChar c ++ rest) = some (c, rest) := by
  unfold escapeChar
  split_ifs with hquote hbackslash hnewline hreturn htab hbackspace hfeed hcontrol
  · subst hquote; rfl
  · subst hbackslash; rfl
  · subst hnewline; rfl
  · subst hreturn; rfl
  · subst htab; rfl
  · subst hbackspace; rfl
  · subst hfeed; rfl
  · have hhigh := hexValue_hexDigit (show c.toNat / 16 < 16 by omega)
    have hlow := hexValue_hexDigit (show c.toNat % 16 < 16 by omega)
    have hzero : hexValue '0' = some 0 := by decide
    have hsum : 16 * (16 * (16 * 0 + 0) + c.toNat / 16) + c.toNat % 16 = c.toNat := by omega
    simp only [List.cons_append, List.nil_append, parseChar, if_true, hzero, hhigh, hlow]
    simp only [Option.bind_eq_bind, Option.bind_some, hsum]
    rw [if_pos (Or.inl (by omega)), Char.ofNat_toNat]
  · simp [parseChar, hbackslash, hcontrol]

/-- The first character of an escaped character is not a quote. -/
theorem escapeChar_ne_quote (c : Char) : ∃ d ds, escapeChar c = d :: ds ∧ d ≠ '"' := by
  unfold escapeChar
  split_ifs with hquote
  any_goals exact ⟨'\\', _, rfl, by decide⟩
  exact ⟨c, [], rfl, hquote⟩

/-- Escaping shortens nothing. -/
theorem length_le_length_escape (cs : List Char) : cs.length ≤ (escape cs).length := by
  induction cs with
  | nil => exact Nat.le_refl _
  | cons c cs ih =>
    obtain ⟨d, ds, heq, _⟩ := escapeChar_ne_quote c
    rw [show escape (c :: cs) = escapeChar c ++ escape cs from rfl, heq]
    simp only [List.length_cons, List.length_append]
    omega

/-- Reading undoes writing the characters of a string. -/
theorem parseChars_escape (cs rest : List Char) {fuel : ℕ} (hfuel : cs.length < fuel) :
    parseChars fuel (escape cs ++ '"' :: rest) = some (cs, rest) := by
  induction cs generalizing fuel with
  | nil =>
    obtain ⟨fuel, rfl⟩ := Nat.exists_eq_succ_of_ne_zero (Nat.ne_of_gt hfuel)
    rfl
  | cons c cs ih =>
    obtain ⟨fuel, rfl⟩ := Nat.exists_eq_succ_of_ne_zero (Nat.ne_of_gt (Nat.zero_lt_of_lt hfuel))
    have hrest := ih (show cs.length < fuel by simp only [List.length_cons] at hfuel; omega)
    obtain ⟨d, ds, heq, hne⟩ := escapeChar_ne_quote c
    have hchar := parseChar_escapeChar c (escape cs ++ '"' :: rest)
    rw [show escape (c :: cs) = escapeChar c ++ escape cs from rfl, List.append_assoc]
    rw [heq, List.cons_append] at hchar ⊢
    unfold parseChars
    split
    · rename_i hquote
      injection hquote with hquote
      exact absurd hquote hne
    · rw [hchar]
      simp only [Option.bind_eq_bind, Option.bind_some]
      rw [hrest]
      rfl

/-! ## Numbers -/

/-- A number can end before this text. -/
def EndsNumber (rest : List Char) : Prop := ∀ c ∈ rest.head?, c.isDigit = false

/-- A number ends before what is no digit. -/
theorem endsNumber_cons {c : Char} {cs : List Char} (h : c.isDigit = false) :
    EndsNumber (c :: cs) := by
  intro d hd
  obtain rfl := Option.mem_some.mp hd
  exact h

/-- Reading undoes writing a natural number. -/
theorem parseNat_toDigits (n : ℕ) {rest : List Char} (hrest : EndsNumber rest) :
    parseNat (Nat.toDigits 10 n ++ rest) = some (n, rest) := by
  have hdigits : ∀ c ∈ Nat.toDigits 10 n, c.isDigit := fun c hc =>
    Nat.isDigit_of_mem_toDigits (by decide) (by decide) hc
  have htake : rest.takeWhile Char.isDigit = [] ∧ rest.dropWhile Char.isDigit = rest := by
    cases rest with
    | nil => exact ⟨rfl, rfl⟩
    | cons c cs =>
      have hc : c.isDigit = false := hrest c rfl
      simp [hc]
  unfold parseNat
  dsimp only
  rw [List.takeWhile_append_of_pos hdigits, List.dropWhile_append_of_pos hdigits, htake.1, htake.2,
    List.append_nil, if_neg Nat.toDigits_ne_nil, Nat.ofDigitChars_ten_toDigits]

/-- What begins with a digit is a number. -/
theorem parseScalar_of_isDigit {c : Char} {cs : List Char} (h : c.isDigit) :
    parseScalar (c :: cs) = (parseNat (c :: cs)).map fun (n, rest) => (.num n, rest) := by
  have hne : ∀ d : Char, d.isDigit = false → c ≠ d := by
    rintro d hd rfl
    rw [h] at hd
    cases hd
  unfold parseScalar
  split
  · rename_i heq
    exact absurd (List.cons.inj heq).1 (hne 'n' (by decide))
  · rename_i heq
    exact absurd (List.cons.inj heq).1 (hne 't' (by decide))
  · rename_i heq
    exact absurd (List.cons.inj heq).1 (hne 'f' (by decide))
  · rename_i heq
    exact absurd (List.cons.inj heq).1 (hne '-' (by decide))
  · rfl

/-- A number is written with at least one digit. -/
theorem exists_toDigits_eq_cons (n : ℕ) : ∃ c cs, Nat.toDigits 10 n = c :: cs ∧ c.isDigit := by
  obtain ⟨c, cs, heq⟩ := List.exists_cons_of_ne_nil (Nat.toDigits_ne_nil (n := n) (b := 10))
  refine ⟨c, cs, heq, Nat.isDigit_of_mem_toDigits (b := 10) (n := n) (by decide) (by decide) ?_⟩
  rw [heq]
  exact List.mem_cons_self

/-- Reading undoes writing an integer. -/
theorem parseScalar_renderInt (n : ℤ) {rest : List Char} (hrest : EndsNumber rest) :
    parseScalar (renderInt n ++ rest) = some (.num n, rest) := by
  cases n with
  | ofNat n =>
    have hparse := parseNat_toDigits n hrest
    obtain ⟨c, cs, heq, hc⟩ := exists_toDigits_eq_cons n
    show parseScalar (Nat.toDigits 10 n ++ rest) = _
    rw [heq, List.cons_append] at hparse ⊢
    rw [parseScalar_of_isDigit hc, hparse]
    rfl
  | negSucc n =>
    show (parseNat (Nat.toDigits 10 (n + 1) ++ rest)).map _ = _
    rw [parseNat_toDigits _ hrest]
    rfl

/-! ## Values -/

/-- White space. -/
def Blank (ws : List Char) : Prop := ∀ c ∈ ws, isBlank c = true

/-- The empty text is blank. -/
theorem blank_nil : Blank [] := fun _ hc => absurd hc List.not_mem_nil

/-- Line breaks and indentations are blank. -/
theorem blank_lineBreak (depth : Option ℕ) : Blank (lineBreak depth) := by
  intro c hc
  cases depth with
  | none => cases hc
  | some d =>
    rcases List.mem_cons.mp hc with rfl | hc
    · decide
    · rw [(List.mem_replicate.mp hc).2]
      decide

/-- White space is skipped up to the first other character. -/
theorem skipBlanks_append {ws : List Char} (hws : Blank ws) {c : Char} {cs : List Char}
    (hc : isBlank c = false) : skipBlanks (ws ++ c :: cs) = c :: cs := by
  unfold skipBlanks
  rw [List.dropWhile_append_of_pos hws, List.dropWhile_cons_of_neg (by simp [hc])]

/-- Nothing is skipped before what is not white space. -/
theorem skipBlanks_cons {c : Char} {cs : List Char} (hc : isBlank c = false) :
    skipBlanks (c :: cs) = c :: cs :=
  skipBlanks_append blank_nil hc

/-- The first character of a value. -/
theorem exists_render_eq_cons (depth : Option ℕ) (v : Value) :
    ∃ c cs, render depth v = c :: cs ∧ isBlank c = false ∧ c ≠ ']' ∧ c ≠ '}' := by
  cases v with
  | null => exact ⟨'n', _, rfl, by decide, by decide, by decide⟩
  | bool b => cases b <;> exact ⟨_, _, rfl, by decide, by decide, by decide⟩
  | num n =>
    cases n with
    | ofNat n =>
      obtain ⟨c, cs, heq, hc⟩ := exists_toDigits_eq_cons n
      have hne : ∀ d : Char, d.isDigit = false → c ≠ d := by
        rintro d hd rfl
        rw [hc] at hd
        cases hd
      refine ⟨c, cs, heq, ?_, hne ']' (by decide), hne '}' (by decide)⟩
      simp only [isBlank, Bool.or_eq_false_iff, decide_eq_false_iff_not]
      exact ⟨⟨⟨hne ' ' (by decide), hne '\n' (by decide)⟩, hne '\t' (by decide)⟩,
        hne '\r' (by decide)⟩
    | negSucc n => exact ⟨'-', _, rfl, by decide, by decide, by decide⟩
  | str s => exact ⟨'"', _, rfl, by decide, by decide, by decide⟩
  | arr vs =>
    cases vs <;> exact ⟨'[', _, by simp only [render]; rfl, by decide, by decide, by decide⟩
  | obj ms =>
    cases ms with
    | nil => exact ⟨'{', _, by simp only [render]; rfl, by decide, by decide, by decide⟩
    | cons m ms =>
      obtain ⟨name, v⟩ := m
      exact ⟨'{', _, by simp only [render]; rfl, by decide, by decide, by decide⟩

mutual

/-- The number of nodes of a value. -/
def valueSize : Value → ℕ
  | .null => 1
  | .bool _ => 1
  | .num _ => 1
  | .str _ => 1
  | .arr vs => 1 + elementsSize vs
  | .obj ms => 1 + membersSize ms

def elementsSize : List Value → ℕ
  | [] => 0
  | v :: vs => 1 + valueSize v + elementsSize vs

def membersSize : List (String × Value) → ℕ
  | [] => 0
  | (_, v) :: ms => 1 + valueSize v + membersSize ms

end

mutual

/-- A text is at least as long as its value has nodes. -/
theorem valueSize_le (depth : Option ℕ) : ∀ v, valueSize v ≤ (render depth v).length
  | .null => by simp [valueSize, render]
  | .bool true => by simp [valueSize, render]
  | .bool false => by simp [valueSize, render]
  | .num n => by
    obtain ⟨c, cs, heq, _⟩ := exists_render_eq_cons depth (.num n)
    rw [heq, valueSize, List.length_cons]
    omega
  | .str s => by
    obtain ⟨c, cs, heq, _⟩ := exists_render_eq_cons depth (.str s)
    rw [heq, valueSize, List.length_cons]
    omega
  | .arr [] => by simp [valueSize, elementsSize, render]
  | .arr (v :: vs) => by
    have hv := valueSize_le (deeper depth) v
    have hvs := elementsSize_le depth vs
    simp only [valueSize, elementsSize, render, List.length_cons, List.length_append]
    omega
  | .obj [] => by simp [valueSize, membersSize, render]
  | .obj ((name, v) :: ms) => by
    have hv := valueSize_le (deeper depth) v
    have hms := membersSize_le depth ms
    simp only [valueSize, membersSize, render, List.length_cons, List.length_append]
    omega

/-- The text of an array is long enough for the recursion over its elements. -/
theorem elementsSize_le (depth : Option ℕ) :
    ∀ vs, elementsSize vs ≤ (renderElements depth vs).length
  | [] => Nat.le_refl _
  | v :: vs => by
    have hv := valueSize_le (deeper depth) v
    have hvs := elementsSize_le depth vs
    simp only [elementsSize, renderElements, List.length_cons, List.length_append]
    omega

/-- The text of an object is long enough for the recursion over its members. -/
theorem membersSize_le (depth : Option ℕ) : ∀ ms, membersSize ms ≤ (renderMembers depth ms).length
  | [] => Nat.le_refl _
  | (name, v) :: ms => by
    have hv := valueSize_le (deeper depth) v
    have hms := membersSize_le depth ms
    simp only [membersSize, renderMembers, List.length_cons, List.length_append]
    omega

end

/-! ### One step of the parser -/

section Steps

variable {fuel : ℕ} {cs ds rest : List Char} {c : Char}

/-- A name is read up to its colon. -/
theorem parseName_quote {name : List Char} (h : skipBlanks cs = '"' :: ds)
    (hchars : parseChars (ds.length + 1) ds = some (name, rest)) {rest' : List Char}
    (hcolon : skipBlanks rest = ':' :: rest') :
    parseName cs = some (String.ofList name, rest') := by
  unfold parseName
  rw [h]
  show (parseChars (ds.length + 1) ds).bind _ = _
  rw [hchars]
  show (match skipBlanks rest with | ':' :: rest => _ | _ => none) = _
  rw [hcolon]
  rfl

/-- What begins with a quote is a string. -/
theorem parseValue_string (h : skipBlanks cs = '"' :: ds) :
    parseValue (fuel + 1) cs = (parseChars (ds.length + 1) ds).map fun (s, rest) =>
      (.str (String.ofList s), rest) := by
  unfold parseValue
  rw [h]
  rfl

/-- Brackets with nothing between are the empty array. -/
theorem parseValue_array_nil (h : skipBlanks cs = '[' :: ds) (h' : skipBlanks ds = ']' :: rest) :
    parseValue (fuel + 1) cs = some (.arr [], rest) := by
  unfold parseValue
  rw [h]
  show (match skipBlanks ds with | ']' :: rest => _ | rest => _) = _
  rw [h']
  rfl

/-- What begins with a bracket is otherwise an array of some elements. -/
theorem parseValue_array (h : skipBlanks cs = '[' :: ds) (h' : skipBlanks ds = c :: rest)
    (hne : c ≠ ']') :
    parseValue (fuel + 1) cs = (parseElements fuel (c :: rest)).map fun (vs, rest) =>
      (.arr vs, rest) := by
  unfold parseValue
  rw [h]
  show (match skipBlanks ds with | ']' :: rest => _ | rest => _) = _
  rw [h']
  split
  · rename_i heq
    exact absurd (List.cons.inj heq).1 hne
  · rfl

/-- Braces with nothing between are the empty object. -/
theorem parseValue_object_nil (h : skipBlanks cs = '{' :: ds) (h' : skipBlanks ds = '}' :: rest) :
    parseValue (fuel + 1) cs = some (.obj [], rest) := by
  unfold parseValue
  rw [h]
  show (match skipBlanks ds with | '}' :: rest => _ | rest => _) = _
  rw [h']
  rfl

/-- What begins with a brace is otherwise an object of some members. -/
theorem parseValue_object (h : skipBlanks cs = '{' :: ds) (h' : skipBlanks ds = c :: rest)
    (hne : c ≠ '}') :
    parseValue (fuel + 1) cs = (parseMembers fuel (c :: rest)).map fun (ms, rest) =>
      (.obj ms, rest) := by
  unfold parseValue
  rw [h]
  show (match skipBlanks ds with | '}' :: rest => _ | rest => _) = _
  rw [h']
  split
  · rename_i heq
    exact absurd (List.cons.inj heq).1 hne
  · rfl

/-- A bracket ends the elements. -/
theorem parseElements_last {v : Value} (hv : parseValue fuel cs = some (v, ds))
    (h : skipBlanks ds = ']' :: rest) : parseElements (fuel + 1) cs = some ([v], rest) := by
  unfold parseElements
  rw [hv]
  show (match skipBlanks ds with | ']' :: rest => _ | ',' :: rest => _ | _ => none) = _
  rw [h]
  rfl

/-- After a comma there are more elements. -/
theorem parseElements_more {v : Value} (hv : parseValue fuel cs = some (v, ds))
    (h : skipBlanks ds = ',' :: rest) :
    parseElements (fuel + 1) cs = (parseElements fuel rest).bind fun (vs, rest) =>
      some (v :: vs, rest) := by
  conv =>
    lhs
    unfold parseElements
  rw [hv]
  show (match skipBlanks ds with | ']' :: rest => _ | ',' :: rest => _ | _ => none) = _
  rw [h]
  rfl

/-- A brace ends the members. -/
theorem parseMembers_last {name : String} {v : Value} {es : List Char}
    (hname : parseName cs = some (name, es)) (hv : parseValue fuel es = some (v, ds))
    (h : skipBlanks ds = '}' :: rest) : parseMembers (fuel + 1) cs = some ([(name, v)], rest) := by
  unfold parseMembers
  rw [hname]
  show (parseValue fuel es).bind _ = _
  rw [hv]
  show (match skipBlanks ds with | '}' :: rest => _ | ',' :: rest => _ | _ => none) = _
  rw [h]
  rfl

/-- After a comma there are more members. -/
theorem parseMembers_more {name : String} {v : Value} {es : List Char}
    (hname : parseName cs = some (name, es)) (hv : parseValue fuel es = some (v, ds))
    (h : skipBlanks ds = ',' :: rest) :
    parseMembers (fuel + 1) cs = (parseMembers fuel rest).bind fun (ms, rest) =>
      some ((name, v) :: ms, rest) := by
  conv =>
    lhs
    unfold parseMembers
  rw [hname]
  show (parseValue fuel es).bind _ = _
  rw [hv]
  show (match skipBlanks ds with | '}' :: rest => _ | ',' :: rest => _ | _ => none) = _
  rw [h]
  rfl

end Steps

/-! ### Whole values -/

/-- What `parseValue` reads with a given fuel. -/
def ReadsValues (fuel : ℕ) : Prop :=
  ∀ (v : Value) (depth : Option ℕ) (ws rest : List Char), valueSize v ≤ fuel → Blank ws →
    EndsNumber rest → parseValue fuel (ws ++ (render depth v ++ rest)) = some (v, rest)

/-- What `parseElements` reads with a given fuel. -/
def ReadsElements (fuel : ℕ) : Prop :=
  ∀ (v : Value) (vs : List Value) (depth : Option ℕ) (ws rest : List Char),
    elementsSize (v :: vs) ≤ fuel → Blank ws →
      parseElements fuel (ws ++ (render (deeper depth) v ++ (renderElements depth vs ++
        (lineBreak depth ++ ']' :: rest)))) = some (v :: vs, rest)

/-- What `parseMembers` reads with a given fuel. -/
def ReadsMembers (fuel : ℕ) : Prop :=
  ∀ (name : String) (v : Value) (ms : List (String × Value)) (depth : Option ℕ)
    (ws rest : List Char), membersSize ((name, v) :: ms) ≤ fuel → Blank ws →
      parseMembers fuel (ws ++ (renderString name ++ (colon depth ++ (render (deeper depth) v ++
        (renderMembers depth ms ++ (lineBreak depth ++ '}' :: rest)))))) =
          some ((name, v) :: ms, rest)

/-- The characters of a string and its closing quote are read. -/
theorem parseChars_string (s : String) (rest : List Char) :
    parseChars ((escape s.toList ++ '"' :: rest).length + 1) (escape s.toList ++ '"' :: rest) =
      some (s.toList, rest) := by
  have hlength := length_le_length_escape s.toList
  refine parseChars_escape _ _ ?_
  simp only [List.length_append, List.length_cons]
  omega

/-- A number can end before a line break, and before what follows it. -/
theorem endsNumber_lineBreak (depth : Option ℕ) {c : Char} {cs : List Char}
    (h : c.isDigit = false) : EndsNumber (lineBreak depth ++ c :: cs) := by
  cases depth with
  | none => exact endsNumber_cons h
  | some d => exact endsNumber_cons (by decide)

/-- A number can end before the rest of an array. -/
theorem endsNumber_renderElements (depth : Option ℕ) (vs : List Value) {c : Char} {cs : List Char}
    (h : c.isDigit = false) :
    EndsNumber (renderElements depth vs ++ (lineBreak depth ++ c :: cs)) := by
  cases vs with
  | nil => exact endsNumber_lineBreak depth h
  | cons v vs =>
    simp only [renderElements, List.cons_append]
    exact endsNumber_cons (by decide)

/-- A number can end before the rest of an object. -/
theorem endsNumber_renderMembers (depth : Option ℕ) (ms : List (String × Value)) {c : Char}
    {cs : List Char} (h : c.isDigit = false) :
    EndsNumber (renderMembers depth ms ++ (lineBreak depth ++ c :: cs)) := by
  cases ms with
  | nil => exact endsNumber_lineBreak depth h
  | cons m ms =>
    obtain ⟨name, v⟩ := m
    simp only [renderMembers, List.cons_append]
    exact endsNumber_cons (by decide)

/-- The name of a member and its colon are read. -/
theorem parseName_renderString (name : String) (depth : Option ℕ) {ws : List Char}
    (hws : Blank ws) (rest : List Char) :
    ∃ ws', Blank ws' ∧
      parseName (ws ++ (renderString name ++ (colon depth ++ rest))) =
        some (name, ws' ++ rest) := by
  have hstring := parseChars_string name (colon depth ++ rest)
  have hskip : skipBlanks (ws ++ (renderString name ++ (colon depth ++ rest))) =
      '"' :: (escape name.toList ++ '"' :: (colon depth ++ rest)) := by
    rw [show renderString name ++ (colon depth ++ rest) =
      '"' :: (escape name.toList ++ '"' :: (colon depth ++ rest)) by simp [renderString]]
    exact skipBlanks_append hws (by decide)
  cases depth with
  | none =>
    refine ⟨[], blank_nil, ?_⟩
    rw [parseName_quote hskip hstring (skipBlanks_cons (by decide)), String.ofList_toList]
    rfl
  | some d =>
    have hspace : Blank [' '] := fun c hc => by
      rw [List.mem_singleton.mp hc]
      decide
    refine ⟨[' '], hspace, ?_⟩
    rw [parseName_quote hskip hstring (skipBlanks_cons (by decide)), String.ofList_toList]
    rfl

section Values

variable {fuel : ℕ} {depth : Option ℕ} {ws rest : List Char}

/-- A value that begins like neither a string nor an array nor an object is read as a scalar. -/
theorem parseValue_scalar {v : Value} {c : Char} {cs : List Char} (hws : Blank ws)
    (hrender : render depth v = c :: cs) (hc : isBlank c = false) (hquote : c ≠ '"')
    (hbracket : c ≠ '[') (hbrace : c ≠ '{')
    (hparse : parseScalar (render depth v ++ rest) = some (v, rest)) :
    parseValue (fuel + 1) (ws ++ (render depth v ++ rest)) = some (v, rest) := by
  rw [hrender, List.cons_append] at hparse ⊢
  unfold parseValue
  rw [skipBlanks_append hws hc]
  split
  · rename_i heq
    exact absurd (List.cons.inj heq).1 hquote
  · rename_i heq
    exact absurd (List.cons.inj heq).1 hbracket
  · rename_i heq
    exact absurd (List.cons.inj heq).1 hbrace
  · exact hparse

/-- A number begins with a digit or a minus sign. -/
theorem parseValue_num (n : ℤ) (hws : Blank ws) (hrest : EndsNumber rest) :
    parseValue (fuel + 1) (ws ++ (render depth (.num n) ++ rest)) = some (.num n, rest) := by
  obtain ⟨c, cs, heq, hc, _⟩ := exists_render_eq_cons depth (.num n)
  have hhead : c ≠ '"' ∧ c ≠ '[' ∧ c ≠ '{' := by
    cases n with
    | ofNat n =>
      obtain ⟨d, ds, hdigits, hd⟩ := exists_toDigits_eq_cons n
      have hcd : c = d := (List.cons.inj (heq.symm.trans hdigits)).1
      subst hcd
      refine ⟨?_, ?_, ?_⟩ <;> rintro rfl <;> cases hd
    | negSucc n =>
      have hc' : c = '-' := (List.cons.inj heq.symm).1
      subst hc'
      decide
  exact parseValue_scalar hws heq hc hhead.1 hhead.2.1 hhead.2.2 (parseScalar_renderInt n hrest)

/-- A string is read back. -/
theorem parseValue_str (s : String) (hws : Blank ws) :
    parseValue (fuel + 1) (ws ++ (render depth (.str s) ++ rest)) = some (.str s, rest) := by
  have htext : renderString s ++ rest = '"' :: (escape s.toList ++ '"' :: rest) := by
    simp [renderString]
  have hskip : skipBlanks (ws ++ (renderString s ++ rest)) =
      '"' :: (escape s.toList ++ '"' :: rest) := by
    rw [htext]
    exact skipBlanks_append hws (by decide)
  show parseValue (fuel + 1) (ws ++ (renderString s ++ rest)) = _
  rw [parseValue_string hskip, parseChars_string]
  show some (Value.str (String.ofList s.toList), rest) = _
  rw [String.ofList_toList]

/-- An array is read back if its elements are. -/
theorem parseValue_arr (helements : ReadsElements fuel) (vs : List Value)
    (hsize : valueSize (.arr vs) ≤ fuel + 1) (hws : Blank ws) :
    parseValue (fuel + 1) (ws ++ (render depth (.arr vs) ++ rest)) = some (.arr vs, rest) := by
  simp only [valueSize] at hsize
  cases vs with
  | nil =>
    rw [show render depth (.arr []) ++ rest = '[' :: ']' :: rest by simp [render]]
    exact parseValue_array_nil (skipBlanks_append hws (by decide)) (skipBlanks_cons (by decide))
  | cons v vs =>
    rw [show render depth (.arr (v :: vs)) ++ rest = '[' :: (lineBreak (deeper depth) ++
      (render (deeper depth) v ++ (renderElements depth vs ++ (lineBreak depth ++ ']' :: rest))))
      by simp [render]]
    have hread := helements v vs depth [] rest (by omega) blank_nil
    -- The first element does not begin with `]`, so the array is not empty.
    obtain ⟨c, cs, heq, hc, hne, _⟩ := exists_render_eq_cons (deeper depth) v
    rw [List.nil_append] at hread
    rw [heq, List.cons_append] at hread ⊢
    rw [parseValue_array (skipBlanks_append hws (by decide))
      (skipBlanks_append (blank_lineBreak _) hc) hne, hread]
    rfl

/-- An object is read back if its members are. -/
theorem parseValue_obj (hmembers : ReadsMembers fuel) (ms : List (String × Value))
    (hsize : valueSize (.obj ms) ≤ fuel + 1) (hws : Blank ws) :
    parseValue (fuel + 1) (ws ++ (render depth (.obj ms) ++ rest)) = some (.obj ms, rest) := by
  simp only [valueSize] at hsize
  cases ms with
  | nil =>
    rw [show render depth (.obj []) ++ rest = '{' :: '}' :: rest by simp [render]]
    exact parseValue_object_nil (skipBlanks_append hws (by decide)) (skipBlanks_cons (by decide))
  | cons m ms =>
    obtain ⟨name, v⟩ := m
    rw [show render depth (.obj ((name, v) :: ms)) ++ rest = '{' :: (lineBreak (deeper depth) ++
      (renderString name ++ (colon depth ++ (render (deeper depth) v ++ (renderMembers depth ms ++
        (lineBreak depth ++ '}' :: rest)))))) by simp [render]]
    have hread := hmembers name v ms depth [] rest (by omega) blank_nil
    -- The first name begins with a quote, so the object is not empty.
    rw [List.nil_append] at hread
    rw [show renderString name = '"' :: (escape name.toList ++ ['"']) from rfl,
      List.cons_append] at hread ⊢
    rw [parseValue_object (skipBlanks_append hws (by decide))
      (skipBlanks_append (blank_lineBreak _) (by decide)) (by decide), hread]
    rfl

end Values

/-- With fuel for their parts, values are read back. -/
theorem readsValues_succ {fuel : ℕ} (helements : ReadsElements fuel)
    (hmembers : ReadsMembers fuel) : ReadsValues (fuel + 1) := by
  intro v depth ws rest hsize hws hrest
  cases v with
  | null => exact parseValue_scalar hws rfl (by decide) (by decide) (by decide) (by decide) rfl
  | bool b =>
    cases b <;>
      exact parseValue_scalar hws rfl (by decide) (by decide) (by decide) (by decide) rfl
  | num n => exact parseValue_num n hws hrest
  | str s => exact parseValue_str s hws
  | arr vs => exact parseValue_arr helements vs hsize hws
  | obj ms => exact parseValue_obj hmembers ms hsize hws

/-- With fuel for a value and the others, elements are read back. -/
theorem readsElements_succ {fuel : ℕ} (hvalues : ReadsValues fuel)
    (helements : ReadsElements fuel) : ReadsElements (fuel + 1) := by
  intro v vs depth ws rest hsize hws
  simp only [elementsSize] at hsize
  have hread := hvalues v (deeper depth) ws
    (renderElements depth vs ++ (lineBreak depth ++ ']' :: rest))
      (by omega) hws (endsNumber_renderElements depth vs (by decide))
  cases vs with
  | nil =>
    rw [show renderElements depth [] = [] by simp [renderElements], List.nil_append] at hread ⊢
    exact parseElements_last hread (skipBlanks_append (blank_lineBreak depth) (by decide))
  | cons w ws' =>
    have hmore := helements w ws' depth (lineBreak (deeper depth)) rest (by
      simp only [elementsSize] at hsize ⊢
      omega) (blank_lineBreak _)
    rw [show renderElements depth (w :: ws') ++ (lineBreak depth ++ ']' :: rest) =
      ',' :: (lineBreak (deeper depth) ++ (render (deeper depth) w ++ (renderElements depth ws' ++
        (lineBreak depth ++ ']' :: rest)))) by simp [renderElements]] at hread ⊢
    rw [parseElements_more hread (skipBlanks_cons (by decide)), hmore]
    rfl

/-- With fuel for a value and the others, members are read back. -/
theorem readsMembers_succ {fuel : ℕ} (hvalues : ReadsValues fuel) (hmembers : ReadsMembers fuel) :
    ReadsMembers (fuel + 1) := by
  intro name v ms depth ws rest hsize hws
  simp only [membersSize] at hsize
  obtain ⟨ws', hws', hname⟩ := parseName_renderString name depth hws
    (render (deeper depth) v ++ (renderMembers depth ms ++ (lineBreak depth ++ '}' :: rest)))
  have hread := hvalues v (deeper depth) ws'
    (renderMembers depth ms ++ (lineBreak depth ++ '}' :: rest))
      (by omega) hws' (endsNumber_renderMembers depth ms (by decide))
  cases ms with
  | nil =>
    rw [show renderMembers depth [] = [] by simp [renderMembers], List.nil_append] at hname hread ⊢
    exact parseMembers_last hname hread (skipBlanks_append (blank_lineBreak depth) (by decide))
  | cons m ms =>
    obtain ⟨name', v'⟩ := m
    have hmore := hmembers name' v' ms depth (lineBreak (deeper depth)) rest (by
      simp only [membersSize] at hsize ⊢
      omega) (blank_lineBreak _)
    rw [show renderMembers depth ((name', v') :: ms) ++ (lineBreak depth ++ '}' :: rest) =
      ',' :: (lineBreak (deeper depth) ++ (renderString name' ++ (colon depth ++
        (render (deeper depth) v' ++
          (renderMembers depth ms ++ (lineBreak depth ++ '}' :: rest))))))
        by simp [renderMembers]] at hname hread ⊢
    rw [parseMembers_more hname hread (skipBlanks_cons (by decide)), hmore]
    rfl

/-- With enough fuel, the parser reads every text that `render` writes. -/
theorem readsValues (fuel : ℕ) : ReadsValues fuel ∧ ReadsElements fuel ∧ ReadsMembers fuel := by
  induction fuel with
  | zero =>
    refine ⟨?_, ?_, ?_⟩
    · intro v depth ws rest hsize
      cases v <;> simp only [valueSize] at hsize <;> omega
    · intro v vs depth ws rest hsize
      simp only [elementsSize] at hsize
      omega
    · intro name v ms depth ws rest hsize
      simp only [membersSize] at hsize
      omega
  | succ fuel ih =>
    obtain ⟨hvalues, helements, hmembers⟩ := ih
    exact ⟨readsValues_succ helements hmembers, readsElements_succ hvalues helements,
      readsMembers_succ hvalues hmembers⟩

/-- Parsing undoes rendering, for the compact text and for the indented one. -/
theorem parse_render (depth : Option ℕ) (v : Value) : parse (render depth v) = some v := by
  have hfuel : valueSize v ≤ (render depth v).length + 1 :=
    Nat.le_succ_of_le (valueSize_le depth v)
  have hread := (readsValues _).1 v depth [] [] hfuel blank_nil fun c hc => by cases hc
  rw [List.nil_append, List.append_nil] at hread
  unfold parse
  rw [hread]
  rfl

end Json
