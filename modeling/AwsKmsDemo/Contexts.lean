import AwsKmsDemo.Settings
import AwsKmsDemo.Text.Trim

/-!
# Encryption contexts

The grammar of `KMS_ENCRYPTION_CONTEXT`, as `parse_encryption_context` reads it: items `key=value`
between commas, with white space around everything and blank pieces anywhere. The text of a context
can be written in many ways, and each of them is read back as the same context.
-/

namespace AwsKmsDemo

open Text

/-! ## Items -/

/-- A text of white space only. -/
def Blank (text : List Char) : Prop :=
  ∀ c ∈ text, isWhitespace c

/-- A piece that reads `key=value`. The key ends at the first `=`, and neither part is blank. -/
def IsItem (piece : List Char) (key value : String) : Prop :=
  ∃ before after, '=' ∉ before ∧ piece = before ++ '=' :: after ∧
    ¬ Blank before ∧ ¬ Blank after ∧
    key = String.ofList (trim before) ∧ value = String.ofList (trim after)

/-- The last item with a key among some pieces. -/
def LastItem (pieces : List (List Char)) (key value : String) : Prop :=
  ∃ earlier piece later, pieces = earlier ++ piece :: later ∧ IsItem piece key value ∧
    ∀ piece' ∈ later, ∀ value', ¬ IsItem piece' key value'

variable {piece left right : List Char} {pieces : List (List Char)} {key value : String}
  {context context' : HashMap}

/-- Trimming leaves nothing of a text exactly when it is blank. -/
theorem trim_eq_nil_iff {text : List Char} : trim text = [] ↔ Blank text := by
  rw [trim_eq_strip]
  exact strip_eq_nil_iff

/-- White space around a text does not matter. -/
theorem trim_append_append (hleft : Blank left) (hright : Blank right) :
    trim (left ++ piece ++ right) = trim piece := by
  rw [trim_eq_strip]
  exact strip_append_append hleft hright

/-- White space contains no separator. -/
theorem not_mem_of_blank {text : List Char} (h : Blank text) : '=' ∉ text ∧ ',' ∉ text :=
  ⟨fun hmem => absurd (h _ hmem) (by decide), fun hmem => absurd (h _ hmem) (by decide)⟩

/-- The empty text is blank. -/
theorem blank_nil : Blank [] := fun _ hc => absurd hc List.not_mem_nil

/-- A piece is at most one item. -/
theorem IsItem.unique {key' value' : String} (h : IsItem piece key value)
    (h' : IsItem piece key' value') : key = key' ∧ value = value' := by
  obtain ⟨before, after, hbefore, heq, _, _, rfl, rfl⟩ := h
  obtain ⟨before', after', hbefore', heq', _, _, rfl, rfl⟩ := h'
  obtain ⟨rfl, rfl⟩ := append_cons_inj hbefore hbefore' (heq.symm.trans heq')
  exact ⟨rfl, rfl⟩

/-- An item is not blank. -/
theorem IsItem.not_blank (h : IsItem piece key value) : ¬ Blank piece := by
  obtain ⟨before, after, _, rfl, _⟩ := h
  exact fun hblank => (not_mem_of_blank hblank).1 (List.mem_append_right _ List.mem_cons_self)

/-- White space around an item does not matter. -/
theorem isItem_append_append (hleft : Blank left) (hright : Blank right) :
    IsItem (left ++ piece ++ right) key value ↔ IsItem piece key value := by
  -- Around the first `=` of the piece, the white space goes to the part on its side.
  have hparts : ∀ before after : List Char, left ++ (before ++ '=' :: after) ++ right =
      (left ++ before) ++ '=' :: (after ++ right) := by simp
  have hleftTrim : ∀ before : List Char, trim (left ++ before) = trim before := fun before => by
    simpa using @trim_append_append before left [] hleft blank_nil
  have hrightTrim : ∀ after : List Char, trim (after ++ right) = trim after := fun after => by
    simpa using @trim_append_append after [] right blank_nil hright
  have hfirst : ∀ before : List Char, '=' ∉ before → '=' ∉ left ++ before := fun before hbefore =>
    List.not_mem_append (not_mem_of_blank hleft).1 hbefore
  constructor
  · rintro ⟨before, after, hbefore, heq, hkey, hvalue, rfl, rfl⟩
    have hmem : '=' ∈ piece := by
      have hall : '=' ∈ left ++ piece ++ right := by
        rw [heq]
        exact List.mem_append_right _ List.mem_cons_self
      rcases List.mem_append.mp hall with hmem | hmem
      · exact (List.mem_append.mp hmem).resolve_left (not_mem_of_blank hleft).1
      · exact absurd hmem (not_mem_of_blank hright).1
    obtain ⟨before', after', rfl, hbefore'⟩ := List.eq_append_cons_of_mem hmem
    rw [hparts] at heq
    obtain ⟨rfl, rfl⟩ := append_cons_inj (hfirst _ hbefore') hbefore heq
    rw [← trim_eq_nil_iff, hleftTrim, trim_eq_nil_iff] at hkey
    rw [← trim_eq_nil_iff, hrightTrim, trim_eq_nil_iff] at hvalue
    exact ⟨before', after', hbefore', rfl, hkey, hvalue, by rw [hleftTrim], by rw [hrightTrim]⟩
  · rintro ⟨before, after, hbefore, rfl, hkey, hvalue, rfl, rfl⟩
    refine ⟨left ++ before, after ++ right, hfirst _ hbefore, hparts _ _, ?_, ?_, ?_, ?_⟩
    · rwa [← trim_eq_nil_iff, hleftTrim, trim_eq_nil_iff]
    · rwa [← trim_eq_nil_iff, hrightTrim, trim_eq_nil_iff]
    · rw [hleftTrim]
    · rw [hrightTrim]

/-- Trimming a piece does not change which item it is. -/
theorem isItem_trim : IsItem (trim piece) key value ↔ IsItem piece key value := by
  obtain ⟨left, right, hpiece, hleft, hright⟩ := exists_strip isWhitespace piece
  rw [← trim_eq_strip] at hpiece
  conv_rhs => rw [hpiece]
  exact (isItem_append_append hleft hright).symm

/-- Pieces with a first one that is not the last with its key, or that is. -/
theorem lastItem_cons : LastItem (piece :: pieces) key value ↔
    LastItem pieces key value ∨
      IsItem piece key value ∧ ∀ piece' ∈ pieces, ∀ value', ¬ IsItem piece' key value' := by
  constructor
  · rintro ⟨earlier, piece', later, heq, hitem, hlast⟩
    cases earlier with
    | nil =>
      obtain ⟨rfl, rfl⟩ := List.cons.inj heq
      exact .inr ⟨hitem, hlast⟩
    | cons _ earlier =>
      obtain ⟨rfl, rfl⟩ := List.cons.inj heq
      exact .inl ⟨earlier, piece', later, rfl, hitem, hlast⟩
  · rintro (⟨earlier, piece', later, rfl, hitem, hlast⟩ | ⟨hitem, hlast⟩)
    · exact ⟨piece :: earlier, piece', later, rfl, hitem, hlast⟩
    · exact ⟨[], piece, pieces, rfl, hitem, hlast⟩

/-- Where there is an item with a key, there is a last one. -/
theorem exists_lastItem (hmem : piece ∈ pieces) (h : IsItem piece key value) :
    ∃ value', LastItem pieces key value' := by
  induction pieces generalizing piece value with
  | nil => exact absurd hmem List.not_mem_nil
  | cons first pieces ih =>
    by_cases hlater : ∀ piece' ∈ pieces, ∀ value', ¬ IsItem piece' key value'
    · rcases List.mem_cons.mp hmem with rfl | hmem
      · exact ⟨value, lastItem_cons.mpr (.inr ⟨h, hlater⟩)⟩
      · exact absurd h (hlater piece hmem value)
    · push Not at hlater
      obtain ⟨piece', hmem', value', hitem'⟩ := hlater
      obtain ⟨last, hlast⟩ := ih hmem' hitem'
      exact ⟨last, lastItem_cons.mpr (.inl hlast)⟩

/-- The last item of a key is one of the pieces. -/
theorem LastItem.mem (h : LastItem pieces key value) :
    ∃ piece ∈ pieces, IsItem piece key value := by
  obtain ⟨earlier, piece, later, rfl, hitem, _⟩ := h
  exact ⟨piece, List.mem_append_right _ List.mem_cons_self, hitem⟩

/-! ## Parsing -/

/-- The body of the loop of `parse_encryption_context`. -/
def insertItem (context : HashMap) (item : String) : Except String HashMap := do
  match splitOnce ['='] item.toList with
  | none => throw s!"invalid KMS_ENCRYPTION_CONTEXT item '{item}', expected key=value"
  | some (key, value) =>
    let key := trim key
    let value := trim value
    if key = [] ∨ value = [] then
      throw s!"invalid KMS_ENCRYPTION_CONTEXT item '{item}', key and value must be non-empty"
    return context.insert (String.ofList key) (String.ofList value)

/-- What a piece adds to a context. -/
def readPiece (context : HashMap) (piece : List Char) : Except String HashMap :=
  if trim piece = [] then .ok context else insertItem context (String.ofList (trim piece))

/-- An item is inserted, and nothing else is accepted. -/
theorem insertItem_eq_ok {item : String} : insertItem context item = .ok context' ↔
    ∃ key value, IsItem item.toList key value ∧ context' = context.insert key value := by
  unfold insertItem
  constructor
  · intro h
    cases hsplit : splitOnce ['='] item.toList with
    | none =>
      rw [hsplit] at h
      cases h
    | some parts =>
      obtain ⟨before, after⟩ := parts
      obtain ⟨hbefore, htext⟩ := splitOnce_eq_some_iff.mp hsplit
      rw [hsplit] at h
      dsimp only at h
      split_ifs at h with hblank
      · cases h
      · rw [not_or, trim_eq_nil_iff, trim_eq_nil_iff] at hblank
        exact ⟨_, _, ⟨before, after, hbefore, htext, hblank.1, hblank.2, rfl, rfl⟩,
          (Except.ok.inj h).symm⟩
  · rintro ⟨key, value, ⟨before, after, hbefore, htext, hkey, hvalue, rfl, rfl⟩, rfl⟩
    rw [← trim_eq_nil_iff] at hkey hvalue
    rw [splitOnce_eq_some_iff.mpr ⟨hbefore, htext⟩]
    dsimp only
    rw [if_neg (not_or.mpr ⟨hkey, hvalue⟩)]
    rfl

/-- A blank piece adds nothing, an item is inserted, and nothing else is accepted. -/
theorem readPiece_eq_ok : readPiece context piece = .ok context' ↔
    Blank piece ∧ context' = context ∨
      ∃ key value, IsItem piece key value ∧ context' = context.insert key value := by
  unfold readPiece
  by_cases hblank : Blank piece
  · rw [if_pos (trim_eq_nil_iff.mpr hblank)]
    constructor
    · exact fun h => .inl ⟨hblank, (Except.ok.inj h).symm⟩
    · rintro (⟨_, rfl⟩ | ⟨key, value, hitem, _⟩)
      · rfl
      · exact absurd hblank hitem.not_blank
  · rw [if_neg (mt trim_eq_nil_iff.mp hblank), insertItem_eq_ok, String.toList_ofList]
    simp only [isItem_trim, hblank, false_and, false_or]

/-- A context is read piece by piece. -/
theorem parseEncryptionContext_eq_foldlM (text : String) :
    parseEncryptionContext text = (split ',' text.toList).foldlM readPiece ∅ := by
  have hbody : parseEncryptionContext text = (parseCsv text).foldlM insertItem ∅ := rfl
  rw [hbody, parseCsv, List.foldlM_map, List.foldlM_filter, List.foldlM_map]
  refine congrArg (fun step => List.foldlM step ∅ (split ',' text.toList)) ?_
  funext context piece
  unfold readPiece
  by_cases hnil : trim piece = []
  · simp [hnil, pure, Except.pure]
  · simp [hnil]

/-- Exactly the lists of blank pieces and items are read. -/
theorem exists_foldlM_readPiece_iff :
    (∃ context', pieces.foldlM readPiece context = .ok context') ↔
      ∀ piece ∈ pieces, ¬ Blank piece → ∃ key value, IsItem piece key value := by
  induction pieces generalizing context with
  | nil => exact iff_of_true ⟨context, rfl⟩ fun _ hmem => absurd hmem List.not_mem_nil
  | cons piece pieces ih =>
    rw [List.foldlM_cons, List.forall_mem_cons]
    constructor
    · rintro ⟨context', h⟩
      obtain ⟨next, hpiece, hpieces⟩ := except_bind_eq_ok.mp h
      refine ⟨fun hblank => ?_, ih.mp ⟨context', hpieces⟩⟩
      rcases readPiece_eq_ok.mp hpiece with ⟨hcontra, _⟩ | ⟨key, value, hitem, _⟩
      · exact absurd hcontra hblank
      · exact ⟨key, value, hitem⟩
    · -- Whether the other pieces can be read does not depend on the context so far.
      rintro ⟨hpiece, hpieces⟩
      have hnext : ∃ next, readPiece context piece = .ok next := by
        by_cases hblank : Blank piece
        · exact ⟨context, readPiece_eq_ok.mpr (.inl ⟨hblank, rfl⟩)⟩
        · obtain ⟨key, value, hitem⟩ := hpiece hblank
          exact ⟨_, readPiece_eq_ok.mpr (.inr ⟨key, value, hitem, rfl⟩)⟩
      obtain ⟨next, hnext⟩ := hnext
      obtain ⟨context', h⟩ : ∃ context', pieces.foldlM readPiece next = .ok context' :=
        ih.mpr hpieces
      exact ⟨context', except_bind_eq_ok.mpr ⟨next, hnext, h⟩⟩

/-- What a key maps to in the end: the value of the last item with this key, or, where there is
none, what it mapped to before. -/
theorem lookup_foldlM_readPiece (h : pieces.foldlM readPiece context = .ok context') :
    context'.lookup key = some value ↔ LastItem pieces key value ∨
      context.lookup key = some value ∧ ∀ piece ∈ pieces, ∀ value', ¬ IsItem piece key value' := by
  induction pieces generalizing context with
  | nil =>
    obtain rfl := Except.ok.inj h
    constructor
    · exact fun hlookup => .inr ⟨hlookup, fun _ hmem => absurd hmem List.not_mem_nil⟩
    · rintro (hlast | ⟨hlookup, _⟩)
      · obtain ⟨_, hmem, _⟩ := hlast.mem
        exact absurd hmem List.not_mem_nil
      · exact hlookup
  | cons piece pieces ih =>
    obtain ⟨next, hpiece, hpieces⟩ := except_bind_eq_ok.mp h
    rw [ih hpieces, lastItem_cons, List.forall_mem_cons]
    rcases readPiece_eq_ok.mp hpiece with ⟨hblank, rfl⟩ | ⟨key', value', hitem, rfl⟩
    · -- A blank piece is no item.
      have hnone : ∀ key value, ¬ IsItem piece key value := fun _ _ hitem => hitem.not_blank hblank
      simp [hnone]
    · by_cases hkey : key = key'
      · subst hkey
        have hitems : IsItem piece key value ↔ value' = value :=
          ⟨fun hitem' => (hitem.unique hitem').2, fun heq => heq ▸ hitem⟩
        have hsome : ¬ ∀ value, ¬ IsItem piece key value := fun hnone => hnone _ hitem
        simp [AList.lookup_insert, hitems, hsome]
      · have hnone : ∀ value, ¬ IsItem piece key value := fun _ hitem' =>
          hkey (hitem'.unique hitem).1
        simp [AList.lookup_insert_ne hkey, hnone]

/-- A key is mapped to the value of the last item with this key. -/
theorem lookup_parseEncryptionContext {text : String}
    (h : parseEncryptionContext text = .ok context) :
    context.lookup key = some value ↔ LastItem (split ',' text.toList) key value := by
  rw [parseEncryptionContext_eq_foldlM] at h
  rw [lookup_foldlM_readPiece h]
  refine or_iff_left ?_
  rintro ⟨hcontra, _⟩
  cases hcontra

/-! ## Rendering -/

/-- An entry that can be written as an item. Only the value may contain `=`. -/
structure Writable (key value : String) : Prop where
  key_ne_nil : key.toList ≠ []
  value_ne_nil : value.toList ≠ []
  key_bare : Bare isWhitespace key.toList
  value_bare : Bare isWhitespace value.toList
  comma_not_mem_key : ',' ∉ key.toList
  comma_not_mem_value : ',' ∉ value.toList
  equals_not_mem_key : '=' ∉ key.toList

/-- An entry as `key=value`, with white space around the key and the value. -/
def writtenItem (key value : String)
    (left beforeEquals afterEquals right : List Char) : List Char :=
  (left ++ key.toList ++ beforeEquals) ++ '=' :: (afterEquals ++ value.toList ++ right)

/-- The pieces that entries can be written as, in their order: an item for each entry, and blank
pieces anywhere. -/
inductive Rendering : List (Σ _ : String, String) → List (List Char) → Prop
  | nil : Rendering [] []
  | blank {entries : List (Σ _ : String, String)} {piece : List Char} {pieces : List (List Char)} :
    Blank piece → Rendering entries pieces → Rendering entries (piece :: pieces)
  | item {entries : List (Σ _ : String, String)} {pieces : List (List Char)} {key value : String}
    {left beforeEquals afterEquals right : List Char} :
    Blank left → Blank beforeEquals → Blank afterEquals → Blank right → Rendering entries pieces →
    Rendering (⟨key, value⟩ :: entries)
      (writtenItem key value left beforeEquals afterEquals right :: pieces)

variable {beforeEquals afterEquals : List Char} {entries : List (Σ _ : String, String)}

/-- Text around white space is trimmed back. -/
theorem trim_of_bare {text : List Char} (hleft : Blank left) (hright : Blank right)
    (h : Bare isWhitespace text) : trim (left ++ text ++ right) = text := by
  rw [trim_append_append hleft hright, trim_eq_strip]
  exact strip_of_bare h

/-- A written entry is an item. -/
theorem Writable.isItem (h : Writable key value) (hleft : Blank left)
    (hbeforeEquals : Blank beforeEquals) (hafterEquals : Blank afterEquals) (hright : Blank right) :
    IsItem (writtenItem key value left beforeEquals afterEquals right) key value := by
  have hkey := trim_of_bare hleft hbeforeEquals h.key_bare
  have hvalue := trim_of_bare hafterEquals hright h.value_bare
  have hbefore : '=' ∉ left ++ key.toList ++ beforeEquals :=
    List.not_mem_append (List.not_mem_append (not_mem_of_blank hleft).1 h.equals_not_mem_key)
      (not_mem_of_blank hbeforeEquals).1
  refine ⟨_, _, hbefore, rfl, ?_, ?_, ?_, ?_⟩
  · rw [← trim_eq_nil_iff, hkey]
    exact h.key_ne_nil
  · rw [← trim_eq_nil_iff, hvalue]
    exact h.value_ne_nil
  · rw [hkey, String.ofList_toList]
  · rw [hvalue, String.ofList_toList]

/-- A written entry contains no comma. -/
theorem Writable.comma_not_mem (h : Writable key value) (hleft : Blank left)
    (hbeforeEquals : Blank beforeEquals) (hafterEquals : Blank afterEquals) (hright : Blank right) :
    ',' ∉ writtenItem key value left beforeEquals afterEquals right := by
  have hbefore : ',' ∉ left ++ key.toList ++ beforeEquals :=
    List.not_mem_append (List.not_mem_append (not_mem_of_blank hleft).2 h.comma_not_mem_key)
      (not_mem_of_blank hbeforeEquals).2
  have hafter : ',' ∉ afterEquals ++ value.toList ++ right :=
    List.not_mem_append (List.not_mem_append (not_mem_of_blank hafterEquals).2
      h.comma_not_mem_value) (not_mem_of_blank hright).2
  exact List.not_mem_append hbefore (List.not_mem_cons_of_ne_of_not_mem (by decide) hafter)

/-- The pieces of a rendering have no commas, and the items among them are the entries. -/
theorem Rendering.spec (h : Rendering entries pieces)
    (hwritable : ∀ e ∈ entries, Writable e.1 e.2) : (∀ piece ∈ pieces, ',' ∉ piece) ∧
    (∀ piece ∈ pieces, ¬ Blank piece → ∃ key value, IsItem piece key value) ∧
    ∀ key value, (∃ piece ∈ pieces, IsItem piece key value) ↔ ⟨key, value⟩ ∈ entries := by
  induction h with
  | nil => simp
  | blank hblank _ ih =>
    obtain ⟨hcomma, hitems, hentries⟩ := ih hwritable
    refine ⟨List.forall_mem_cons.mpr ⟨(not_mem_of_blank hblank).2, hcomma⟩,
      List.forall_mem_cons.mpr ⟨fun hcontra => absurd hblank hcontra, hitems⟩, fun key value => ?_⟩
    rw [List.exists_mem_cons_iff, hentries]
    -- A blank piece is no item, so it adds no entry.
    exact or_iff_right fun hitem => hitem.not_blank hblank
  | @item entries _ key value _ _ _ _ hleft hbeforeEquals hafterEquals hright _ ih =>
    obtain ⟨hentry, hrest⟩ := List.forall_mem_cons.mp hwritable
    obtain ⟨hcomma, hitems, hentries⟩ := ih hrest
    have hitem := hentry.isItem hleft hbeforeEquals hafterEquals hright
    refine ⟨List.forall_mem_cons.mpr
        ⟨hentry.comma_not_mem hleft hbeforeEquals hafterEquals hright, hcomma⟩,
      List.forall_mem_cons.mpr ⟨fun _ => ⟨key, value, hitem⟩, hitems⟩, fun key' value' => ?_⟩
    rw [List.exists_mem_cons_iff, hentries, List.mem_cons]
    -- A piece is an item in one way only: the one in which it was written.
    refine or_congr ⟨fun hitem' => ?_, fun heq => ?_⟩ Iff.rfl
    · obtain ⟨rfl, rfl⟩ := hitem'.unique hitem
      rfl
    · cases heq
      exact hitem

/-- The pieces of a text that was joined with commas. Nothing joined is one blank piece. -/
theorem mem_split_intercalate_iff (hcomma : ∀ piece ∈ pieces, ',' ∉ piece)
    (hblank : ¬ Blank piece) : piece ∈ split ',' ([','].intercalate pieces) ↔ piece ∈ pieces := by
  rcases eq_or_ne pieces [] with rfl | hne
  · refine iff_of_false (fun hmem => hblank ?_) List.not_mem_nil
    rw [List.mem_singleton.mp hmem]
    exact blank_nil
  · rw [split_eq_splitOn, List.splitOn_intercalate ',' hcomma hne]

/-- Each way to write a context is read back as the context. -/
theorem exists_parseEncryptionContext_of_rendering {text : String}
    (hwritable : ∀ e ∈ context.entries, Writable e.1 e.2) (hperm : entries.Perm context.entries)
    (hrendering : Rendering entries pieces) (htext : text.toList = [','].intercalate pieces) :
    ∃ context', parseEncryptionContext text = .ok context' ∧
      context'.entries.Perm context.entries := by
  obtain ⟨hcomma, hitems, hentries⟩ := hrendering.spec fun e he => hwritable e (hperm.mem_iff.mp he)
  have hpieces : ∀ piece, ¬ Blank piece → (piece ∈ split ',' text.toList ↔ piece ∈ pieces) := by
    intro piece hblank
    rw [htext]
    exact mem_split_intercalate_iff hcomma hblank
  have hread : ∀ key value, (∃ piece ∈ split ',' text.toList, IsItem piece key value) ↔
      ⟨key, value⟩ ∈ context.entries := by
    intro key value
    rw [← hperm.mem_iff, ← hentries]
    exact exists_congr fun piece => and_congr_left fun hitem => hpieces piece hitem.not_blank
  have haccepted : ∃ context', parseEncryptionContext text = .ok context' := by
    rw [parseEncryptionContext_eq_foldlM]
    exact exists_foldlM_readPiece_iff.mpr fun piece hmem hblank =>
      hitems piece ((hpieces piece hblank).mp hmem) hblank
  obtain ⟨context', hparse⟩ := haccepted
  refine ⟨context', hparse, List.lookup_ext context'.nodupKeys context.nodupKeys
    fun key value => ?_⟩
  have hleft : value ∈ context'.entries.dlookup key ↔ LastItem (split ',' text.toList) key value :=
    lookup_parseEncryptionContext hparse
  rw [hleft, List.mem_dlookup_iff context.nodupKeys]
  constructor
  · exact fun hlast => (hread key value).mp hlast.mem
  · intro hmem
    -- The last item with the key is the entry, because the key has no other.
    obtain ⟨piece, hpiece, hitem⟩ := (hread key value).mpr hmem
    obtain ⟨value', hlast⟩ := exists_lastItem hpiece hitem
    have hsame : value' = value :=
      context.nodupKeys.eq_of_mk_mem ((hread key value').mp hlast.mem) hmem
    exact hsame ▸ hlast

/-- A text is accepted exactly when all its pieces that are not blank are items, and each key is
then mapped to the value of the last item with this key. So every context is read back from each way
to write it. -/
theorem encryption_context_grammar (text : String) :
    ((∃ context, parseEncryptionContext text = .ok context) ↔
      ∀ piece ∈ split ',' text.toList, ¬ Blank piece → ∃ key value, IsItem piece key value) ∧
    (∀ context, parseEncryptionContext text = .ok context → ∀ key value,
      context.lookup key = some value ↔ LastItem (split ',' text.toList) key value) ∧
    ∀ context : HashMap, (∀ e ∈ context.entries, Writable e.1 e.2) →
      ∀ entries pieces, entries.Perm context.entries → Rendering entries pieces →
      text.toList = [','].intercalate pieces →
      ∃ context', parseEncryptionContext text = .ok context' ∧
        context'.entries.Perm context.entries := by
  refine ⟨?_, fun context h key value => lookup_parseEncryptionContext h,
    fun context hwritable entries pieces hperm hrendering htext =>
      exists_parseEncryptionContext_of_rendering hwritable hperm hrendering htext⟩
  rw [parseEncryptionContext_eq_foldlM]
  exact exists_foldlM_readPiece_iff

/-- A repeated key, blank pieces, and a value with `=`. -/
example : (parseEncryptionContext " a = 1=2 ,, b=3,a=4 ").toOption.map AList.entries =
    some [⟨"a", "4"⟩, ⟨"b", "3"⟩] := by decide

end AwsKmsDemo
