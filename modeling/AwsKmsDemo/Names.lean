import AwsKmsDemo.Initialize
import AwsKmsDemo.Reference

/-!
# The names of a key

`kms_region_from_arn` and `kms_key_display_id` take a key ARN apart in two ways. The first cuts it
at its colons, and the second looks for the first `:key/`. So not every ARN that is accepted has a
name, and a run that comes to an ARN without a name has already had a data key generated for it.
-/

namespace AwsKmsDemo

open Interaction Interaction.Program

/-! ## Key ARNs by their fields -/

/-- The fields of a key ARN. Only the last one may contain a colon. -/
structure KeyArn where
  partition : List Char
  region : List Char
  account : List Char
  /-- What follows `key/`. -/
  keyId : List Char
  colon_not_mem_partition : ':' ∉ partition
  colon_not_mem_region : ':' ∉ region
  colon_not_mem_account : ':' ∉ account
  region_ne_nil : region ≠ []
  account_ne_nil : account ≠ []

/-- The text of a key ARN. -/
def KeyArn.text (arn : KeyArn) : List Char :=
  "arn".toList ++ ':' :: (arn.partition ++ ':' :: ("kms".toList ++ ':' :: (arn.region ++
    ':' :: (arn.account ++ ':' :: ("key/".toList ++ arn.keyId)))))

/-- The pieces of a key ARN, when it is cut into six. -/
theorem KeyArn.splitn_text (arn : KeyArn) :
    Text.splitn ':' 6 arn.text = ["arn".toList, arn.partition, "kms".toList, arn.region,
      arn.account, "key/".toList ++ arn.keyId] := by
  rw [KeyArn.text, Text.splitn_append (by decide),
    Text.splitn_append arn.colon_not_mem_partition, Text.splitn_append (by decide),
    Text.splitn_append arn.colon_not_mem_region, Text.splitn_append arn.colon_not_mem_account]
  rfl

/-- The pieces of a key ARN, when it is cut at all its colons. -/
theorem KeyArn.split_text (arn : KeyArn) :
    Text.split ':' arn.text = "arn".toList :: arn.partition :: "kms".toList :: arn.region ::
      arn.account :: Text.split ':' ("key/".toList ++ arn.keyId) := by
  rw [KeyArn.text, Text.split_cons_of_not_mem (by decide),
    Text.split_cons_of_not_mem arn.colon_not_mem_partition, Text.split_cons_of_not_mem (by decide),
    Text.split_cons_of_not_mem arn.colon_not_mem_region,
    Text.split_cons_of_not_mem arn.colon_not_mem_account]

/-- A text is that of at most one key ARN. -/
theorem KeyArn.text_injective {arn arn' : KeyArn} (h : arn.text = arn'.text) : arn = arn' := by
  have hpieces := arn.splitn_text
  rw [h, arn'.splitn_text] at hpieces
  simp only [List.cons.injEq, List.append_cancel_left_eq, and_true, true_and] at hpieces
  obtain ⟨hpartition, hregion, haccount, hkeyId⟩ := hpieces
  cases arn
  cases arn'
  simp_all

/-- `kms_region_from_arn` accepts the texts of key ARNs. -/
theorem kmsRegionFromArn_eq_ok {keyArn region : String} :
    kmsRegionFromArn keyArn = .ok region ↔
      ∃ arn : KeyArn, keyArn.toList = arn.text ∧ region = String.ofList arn.region := by
  unfold kmsRegionFromArn
  constructor
  · intro h
    dsimp only at h
    split_ifs at h with hparts
    simp only [not_or, not_not] at hparts
    obtain ⟨hlength, harn, hkms, hregion, haccount, hkey⟩ := hparts
    -- Six parts: five cuts at the first colon of what is left.
    obtain ⟨before₀, after₀, hcolon₀, htext, hsplit₀, hlength₀⟩ :=
      Text.exists_of_length_splitn hlength
    obtain ⟨before₁, after₁, hcolon₁, rfl, hsplit₁, hlength₁⟩ :=
      Text.exists_of_length_splitn hlength₀
    obtain ⟨before₂, after₂, hcolon₂, rfl, hsplit₂, hlength₂⟩ :=
      Text.exists_of_length_splitn hlength₁
    obtain ⟨before₃, after₃, hcolon₃, rfl, hsplit₃, hlength₃⟩ :=
      Text.exists_of_length_splitn hlength₂
    obtain ⟨before₄, after₄, hcolon₄, rfl, hsplit₄, _⟩ := Text.exists_of_length_splitn hlength₃
    rw [hsplit₀, hsplit₁, hsplit₂, hsplit₃, hsplit₄] at harn hkms hregion haccount hkey h
    change before₀ = _ at harn
    change before₂ = _ at hkms
    obtain ⟨keyId, rfl⟩ : "key/".toList <+: after₄ := hkey
    subst harn hkms
    exact ⟨⟨before₁, before₃, before₄, keyId, hcolon₁, hcolon₃, hcolon₄, hregion, haccount⟩, htext,
      (Except.ok.inj h).symm⟩
  · rintro ⟨arn, htext, rfl⟩
    dsimp only
    rw [htext, arn.splitn_text, if_neg]
    · rfl
    · simp only [not_or, not_not]
      exact ⟨rfl, rfl, rfl, arn.region_ne_nil, arn.account_ne_nil, List.prefix_append _ _⟩

/-- `kms_account_from_arn` finds the account of a key ARN. -/
theorem kmsAccountFromArn_of_text {keyArn : String} {arn : KeyArn}
    (htext : keyArn.toList = arn.text) :
    kmsAccountFromArn keyArn = .ok (String.ofList arn.account) := by
  unfold kmsAccountFromArn
  rw [kmsRegionFromArn_eq_ok.mpr ⟨arn, htext, rfl⟩, htext, arn.split_text]
  rfl

/-- The `expect` of `kms_account_from_arn` never fails. -/
theorem kmsAccountFromArn_ne_panic {keyArn message : String} :
    kmsAccountFromArn keyArn ≠ .error (.panic message) := by
  cases hregion : kmsRegionFromArn keyArn with
  | error e =>
    unfold kmsAccountFromArn
    rw [hregion]
    intro h
    cases h
  | ok region =>
    obtain ⟨arn, htext, _⟩ := kmsRegionFromArn_eq_ok.mp hregion
    rw [kmsAccountFromArn_of_text htext]
    intro h
    cases h

/-! ## Names -/

/-- A key id that `kms_key_display_id` accepts. -/
def SafeKeyId (keyId : List Char) : Prop :=
  keyId ≠ [] ∧ keyId.all fun c => c.isAlphanum || c = '-'

/-- The display id is the end of a safe key id. -/
theorem kmsKeyDisplayId_eq_ok {keyArn displayId : String} :
    kmsKeyDisplayId keyArn = .ok displayId ↔
      ∃ keyId, (Text.splitOnce ":key/".toList keyArn.toList).map Prod.snd = some keyId ∧
        SafeKeyId keyId ∧ displayId = String.ofList (keyId.reverse.take 8).reverse := by
  unfold kmsKeyDisplayId SafeKeyId
  rcases (Text.splitOnce ":key/".toList keyArn.toList).map Prod.snd with _ | _ | ⟨c, cs⟩
  · constructor
    · intro h
      cases h
    · rintro ⟨_, h, _⟩
      cases h
  · constructor
    · intro h
      cases h
    · rintro ⟨_, h, ⟨hne, _⟩, _⟩
      exact absurd (Option.some.inj h).symm hne
  · by_cases hsafe : ((c :: cs).all fun c => c.isAlphanum || c = '-') = true
    · constructor
      · intro h
        refine ⟨_, rfl, ⟨List.cons_ne_nil _ _, hsafe⟩, ?_⟩
        simp only [pure_bind, hsafe] at h
        exact (Except.ok.inj h).symm
      · rintro ⟨_, h, _, rfl⟩
        obtain rfl := Option.some.inj h
        simp only [pure_bind, hsafe]
        rfl
    · constructor
      · intro h
        simp only [pure_bind, hsafe] at h
        cases h
      · rintro ⟨_, h, ⟨_, hall⟩, _⟩
        obtain rfl := Option.some.inj h
        exact absurd hall hsafe

/-- An ARN that has names: its key id is safe, and no field before it looks like the beginning of
the last one. -/
structure KeyArn.WellNamed (arn : KeyArn) : Prop where
  keyId : SafeKeyId arn.keyId
  partition : ¬ "key/".toList <+: arn.partition
  region : ¬ "key/".toList <+: arn.region
  account : ¬ "key/".toList <+: arn.account

/-- What follows the first `:key/`, after a piece without colons. -/
theorem snd_splitOnce_append {before after : List Char} (h : ':' ∉ before) :
    (Text.splitOnce ":key/".toList (before ++ ':' :: after)).map Prod.snd =
      if "key/".toList <+: after then some (after.drop 4)
      else (Text.splitOnce ":key/".toList after).map Prod.snd := by
  have hsplit : Text.splitOnce (':' :: "key/".toList) (before ++ ':' :: after) = _ :=
    Text.splitOnce_append h
  rw [show ":key/".toList = ':' :: "key/".toList from rfl, hsplit]
  split_ifs
  · rfl
  · rw [Option.map_map]
    rfl

/-- The key id follows `key/`. -/
theorem drop_key (keyId : List Char) : ("key/".toList ++ keyId).drop 4 = keyId :=
  List.drop_left' rfl

/-- A field that looks like the beginning of the last one brings a colon into the key id. -/
theorem not_safeKeyId_drop {field rest : List Char} (h : "key/".toList <+: field) :
    ¬ SafeKeyId ((field ++ ':' :: rest).drop 4) := by
  obtain ⟨id, rfl⟩ := h
  rw [List.append_assoc, drop_key]
  rintro ⟨_, hall⟩
  have hcolon := List.all_eq_true.mp hall ':' (List.mem_append_right _ List.mem_cons_self)
  exact absurd hcolon (by decide)

/-- What follows the first `:key/` of a key ARN. It is the key id, unless a field before it looks
like the beginning of the last one. -/
theorem KeyArn.splitOnce_text (arn : KeyArn) :
    (Text.splitOnce ":key/".toList arn.text).map Prod.snd =
      if "key/".toList <+: arn.partition then some ((arn.partition ++ ':' :: ("kms".toList ++ ':' ::
        (arn.region ++ ':' :: (arn.account ++ ':' :: ("key/".toList ++ arn.keyId))))).drop 4)
      else if "key/".toList <+: arn.region then some ((arn.region ++ ':' :: (arn.account ++
        ':' :: ("key/".toList ++ arn.keyId))).drop 4)
      else if "key/".toList <+: arn.account then
        some ((arn.account ++ ':' :: ("key/".toList ++ arn.keyId)).drop 4)
      else some arn.keyId := by
  have hcolon : ':' ∉ "key/".toList := by decide
  rw [KeyArn.text, snd_splitOnce_append (by decide),
    snd_splitOnce_append arn.colon_not_mem_partition, snd_splitOnce_append (by decide),
    snd_splitOnce_append arn.colon_not_mem_region, snd_splitOnce_append arn.colon_not_mem_account]
  simp only [Text.prefix_append_cons_iff hcolon]
  rw [if_neg (show ¬ "key/".toList <+: "kms".toList by decide),
    if_pos (List.prefix_append _ _), drop_key]

/-- A key ARN with a display id has names, and the display id is taken from its key id. The search
for the first `:key/` may stop at an earlier field, but then what follows it contains a colon. -/
theorem wellNamed_of_kmsKeyDisplayId {keyArn displayId : String} {arn : KeyArn}
    (htext : keyArn.toList = arn.text) (h : kmsKeyDisplayId keyArn = .ok displayId) :
    arn.WellNamed ∧ displayId = String.ofList (arn.keyId.reverse.take 8).reverse := by
  obtain ⟨keyId, hkeyId, hsafe, hdisplayId⟩ := kmsKeyDisplayId_eq_ok.mp h
  rw [htext, arn.splitOnce_text] at hkeyId
  split_ifs at hkeyId with hpartition hregion haccount
  · rw [← Option.some.inj hkeyId] at hsafe
    exact absurd hsafe (not_safeKeyId_drop hpartition)
  · rw [← Option.some.inj hkeyId] at hsafe
    exact absurd hsafe (not_safeKeyId_drop hregion)
  · rw [← Option.some.inj hkeyId] at hsafe
    exact absurd hsafe (not_safeKeyId_drop haccount)
  · obtain rfl := Option.some.inj hkeyId
    exact ⟨⟨hsafe, hpartition, hregion, haccount⟩, hdisplayId⟩

/-- Of the accepted ARNs, exactly those with names have a display id. -/
theorem exists_kmsKeyDisplayId_iff {keyArn : String} {arn : KeyArn}
    (htext : keyArn.toList = arn.text) :
    (∃ displayId, kmsKeyDisplayId keyArn = .ok displayId) ↔ arn.WellNamed := by
  constructor
  · rintro ⟨displayId, h⟩
    exact (wellNamed_of_kmsKeyDisplayId htext h).1
  · intro h
    refine ⟨_, kmsKeyDisplayId_eq_ok.mpr ⟨arn.keyId, ?_, h.keyId, rfl⟩⟩
    rw [htext, arn.splitOnce_text, if_neg h.partition, if_neg h.region, if_neg h.account]

/-- A key has a storage id exactly when it has a display id. -/
theorem exists_kmsKeyStorageId_iff {crates : Crates} {keyArn : String} :
    (∃ storageId, kmsKeyStorageId crates keyArn = .ok storageId) ↔
      ∃ displayId, kmsKeyDisplayId keyArn = .ok displayId := by
  constructor
  · rintro ⟨_, h⟩
    obtain ⟨displayId, hdisplay, _⟩ := except_bind_eq_ok.mp h
    exact ⟨displayId, hdisplay⟩
  · rintro ⟨displayId, h⟩
    exact ⟨_, except_bind_eq_ok.mpr ⟨displayId, h, rfl⟩⟩

/-- The digits that `{byte:02x}` writes. -/
def lowercaseHexDigits : List Char := "0123456789abcdef".toList

/-- A hexadecimal digit is written in lower case. -/
theorem hexDigit_mem (n : ℕ) : Json.hexDigit n ∈ lowercaseHexDigits := by
  unfold Json.hexDigit
  rw [List.getD_eq_getElem?_getD]
  cases hdigit : "0123456789abcdef".toList[n]? with
  | none => exact List.mem_cons_self
  | some c => exact List.mem_of_getElem? hdigit

/-- Such a digit is a letter or a digit. -/
theorem isAlphanum_of_mem_lowercaseHexDigits {c : Char} (h : c ∈ lowercaseHexDigits) :
    c.isAlphanum := by
  have hall : lowercaseHexDigits.all Char.isAlphanum := by decide
  exact List.all_eq_true.mp hall c h

/-- A hash is written with lowercase hexadecimal digits. -/
theorem mem_sha256Hex {crates : Crates} {bytes : Bytes} {c : Char}
    (h : c ∈ (sha256Hex crates bytes).toList) : c ∈ lowercaseHexDigits := by
  unfold sha256Hex at h
  rw [String.toList_ofList] at h
  obtain ⟨byte, _, hbyte⟩ := List.mem_flatMap.mp h
  rcases List.mem_pair.mp hbyte with rfl | rfl <;> exact hexDigit_mem _

/-- A storage id is the display id, a dash and the beginning of the hash of the ARN, and it has safe
characters only. -/
theorem kmsKeyStorageId_of_displayId (crates : Crates) {keyArn displayId : String}
    (h : kmsKeyDisplayId keyArn = .ok displayId) :
    ∃ storageId hex, kmsKeyStorageId crates keyArn = .ok storageId ∧
      storageId.toList = displayId.toList ++ '-' :: hex ∧
      hex.length = 12 ∧ (∀ c ∈ hex, c ∈ lowercaseHexDigits) ∧
      ∀ c ∈ storageId.toList, c.isAlphanum ∨ c = '-' := by
  have hsafe : ∀ c ∈ displayId.toList, c.isAlphanum ∨ c = '-' := by
    obtain ⟨keyId, _, ⟨_, hall⟩, rfl⟩ := kmsKeyDisplayId_eq_ok.mp h
    intro c hc
    rw [String.toList_ofList] at hc
    have hmem : c ∈ keyId := List.mem_reverse.mp (List.mem_of_mem_take (List.mem_reverse.mp hc))
    simpa using List.all_eq_true.mp hall c hmem
  have hhex : ∀ c ∈ (sha256Hex crates (Json.utf8 keyArn.toList)).toList.take 12,
      c ∈ lowercaseHexDigits := fun c hc => mem_sha256Hex (List.mem_of_mem_take hc)
  have htext : (displayId ++ "-" ++ String.ofList ((sha256Hex crates
      (Json.utf8 keyArn.toList)).toList.take 12)).toList =
      displayId.toList ++ '-' :: (sha256Hex crates (Json.utf8 keyArn.toList)).toList.take 12 := by
    simp
  refine ⟨_, _, except_bind_eq_ok.mpr ⟨displayId, h, rfl⟩, htext, ?_, hhex, ?_⟩
  · rw [List.length_take, length_sha256Hex]
    rfl
  · intro c hc
    have hmem : c ∈ displayId.toList ++ '-' ::
        (sha256Hex crates (Json.utf8 keyArn.toList)).toList.take 12 := htext ▸ hc
    rcases List.mem_append.mp hmem with hdisplay | hrest
    · exact hsafe c hdisplay
    · rcases List.mem_cons.mp hrest with rfl | hdigit
      · exact .inr rfl
      · exact .inl (isAlphanum_of_mem_lowercaseHexDigits (hhex c hdigit))

/-- The parsers of key ARNs read the same ARN in the same way. The region is that of the one key ARN
that a text can be, the account is found in it, and the names are made from its key id and its
hash. -/
theorem arn_parsers_agree (crates : Crates) (keyArn : String) :
    (∀ region, kmsRegionFromArn keyArn = .ok region ↔
      ∃ arn : KeyArn, keyArn.toList = arn.text ∧ region = String.ofList arn.region) ∧
    (∀ message, kmsAccountFromArn keyArn ≠ .error (.panic message)) ∧
    ∀ arn : KeyArn, keyArn.toList = arn.text →
      (∀ arn' : KeyArn, keyArn.toList = arn'.text → arn' = arn) ∧
      kmsAccountFromArn keyArn = .ok (String.ofList arn.account) ∧
      ∀ displayId, kmsKeyDisplayId keyArn = .ok displayId →
        displayId.toList <:+ arn.keyId ∧ displayId.toList.length = min 8 arn.keyId.length ∧
        ∃ storageId hex, kmsKeyStorageId crates keyArn = .ok storageId ∧
          storageId.toList = displayId.toList ++ '-' :: hex ∧
          hex.length = 12 ∧ (∀ c ∈ hex, c ∈ lowercaseHexDigits) ∧
          ∀ c ∈ storageId.toList, c.isAlphanum ∨ c = '-' := by
  refine ⟨fun region => kmsRegionFromArn_eq_ok, fun message => kmsAccountFromArn_ne_panic,
    fun arn htext => ⟨fun arn' htext' => ?_, kmsAccountFromArn_of_text htext,
      fun displayId h => ⟨?_, ?_, kmsKeyStorageId_of_displayId crates h⟩⟩⟩
  · exact KeyArn.text_injective (htext'.symm.trans htext)
  · obtain ⟨_, rfl⟩ := wellNamed_of_kmsKeyDisplayId htext h
    rw [String.toList_ofList, ← List.reverse_prefix, List.reverse_reverse]
    exact List.take_prefix 8 _
  · obtain ⟨_, rfl⟩ := wellNamed_of_kmsKeyDisplayId htext h
    rw [String.toList_ofList, List.length_reverse, List.length_take, List.length_reverse]

/-! ## Slots of keys without names -/

variable {crates : Crates} {kmsClient : KmsDataKeyClient} {settings : ParentSettings}
  {privateKey : Vector UInt8 32} {key : KmsKeySettings} {tr : List EnclaveEvent}

/-- What the loop of `initialize_key_material` does for a key before it comes to the names: it has
KMS generate a data key, and encrypts the private key under it. -/
def sealPrivateKey (crates : Crates) (kmsClient : KmsDataKeyClient) (settings : ParentSettings)
    (privateKey : Vector UInt8 32) (key : KmsKeySettings) :
    EnclaveProgram (GeneratedDataKey × Vector UInt8 12 × Bytes) := do
  let generated ← kmsClient.generateDataKey crates settings key
  failIf (generated.kmsKeyId ≠ key.keyArn)
    (.err s!"KMS GenerateDataKey returned unexpected key ID {generated.kmsKeyId}; expected {key.keyArn}")
  ofText (validateDataKeyLen generated.plaintextDataKey)
  let nonce ← random aesGcmNonceLength
  let encryptedPrivateKey ←
    encryptPrivateKey crates generated.plaintextDataKey nonce privateKey.toList
  return (generated, nonce, encryptedPrivateKey)

/-- A deposit is a sealed private key with the names of its key. -/
theorem makeDeposit_eq : makeDeposit crates kmsClient settings privateKey key =
    (sealPrivateKey crates kmsClient settings privateKey key).bind
      fun (generated, nonce, encrypted) =>
      (Program.ofExcept (ofText (kmsKeyStorageId crates key.keyArn))).bind fun storageId =>
        (Program.ofExcept (ofText (kmsKeyDisplayId key.keyArn))).bind fun displayId =>
          .ret ⟨generated, nonce, encrypted, storageId, displayId⟩ := by
  unfold makeDeposit sealPrivateKey
  simp only [bind_eq, Program.bind_assoc, pure_eq, ret_bind]
  rfl

/-- Once a private key is sealed, the run goes on exactly when the key has names. -/
theorem exists_yields_makeDeposit_iff {sealed : GeneratedDataKey × Vector UInt8 12 × Bytes}
    (h : (sealPrivateKey crates kmsClient settings privateKey key).Yields tr (.ok sealed)) :
    (∃ d, (makeDeposit crates kmsClient settings privateKey key).Yields tr (.ok d)) ↔
      ∃ displayId, kmsKeyDisplayId key.keyArn = .ok displayId := by
  constructor
  · rintro ⟨d, hd⟩
    exact ⟨_, (deposited_of_yields hd).displayId⟩
  · rintro ⟨displayId, hdisplay⟩
    obtain ⟨storageId, hstorage⟩ := (@exists_kmsKeyStorageId_iff crates _).mpr ⟨_, hdisplay⟩
    refine ⟨⟨sealed.1, sealed.2.1, sealed.2.2, storageId, displayId⟩, ?_⟩
    rw [makeDeposit_eq]
    refine yields_bind_ok.mpr ⟨tr, [], sealed, (List.append_nil _).symm, h, ?_⟩
    rw [hstorage, hdisplay]
    exact .refl _

/-- The ARN of a key has names. -/
def HasNames (keyArn : String) : Prop :=
  ∃ arn : KeyArn, keyArn.toList = arn.text ∧ arn.WellNamed

/-- An accepted key has a display id exactly when its ARN has names. -/
theorem exists_kmsKeyDisplayId_of_fromArn {slot : KmsSlot} {keyArn : String}
    (h : KmsKeySettings.fromArn slot keyArn = .ok key) :
    (∃ displayId, kmsKeyDisplayId keyArn = .ok displayId) ↔ HasNames keyArn := by
  obtain ⟨region, hregion, _⟩ := except_bind_eq_ok.mp h
  obtain ⟨arn, htext, _⟩ := kmsRegionFromArn_eq_ok.mp hregion
  constructor
  · exact fun hdisplay => ⟨arn, htext, (exists_kmsKeyDisplayId_iff htext).mp hdisplay⟩
  · rintro ⟨arn', htext', hnamed⟩
    exact (exists_kmsKeyDisplayId_iff htext').mpr hnamed

/-- The ARN of a key is kept as it was given. -/
theorem keyArn_of_fromArn {slot : KmsSlot} {keyArn : String}
    (h : KmsKeySettings.fromArn slot keyArn = .ok key) : key.keyArn = keyArn := by
  obtain ⟨region, _, hkey⟩ := except_bind_eq_ok.mp h
  rw [← Except.ok.inj hkey]

/-- Of two ARNs that startup accepts, both ids exist exactly when both ARNs have names. And a run
that has sealed the private key for one of them goes on exactly when this one has names: otherwise
it fails after KMS has generated a data key. -/
theorem key_ids_exist_iff {primaryArn backupArn : String} {primary backup : KmsKeySettings}
    (hprimary : KmsKeySettings.fromArn .primary primaryArn = .ok primary)
    (hbackup : KmsKeySettings.fromArn .backup backupArn = .ok backup)
    (hkeys : settings.kmsKeys = [primary, backup]) :
    ((∀ keyArn ∈ [primaryArn, backupArn], (∃ displayId, kmsKeyDisplayId keyArn = .ok displayId) ∧
        ∃ storageId, kmsKeyStorageId crates keyArn = .ok storageId) ↔
      ∀ keyArn ∈ [primaryArn, backupArn], HasNames keyArn) ∧
    ∀ key ∈ settings.kmsKeys, ∀ (kmsClient : KmsDataKeyClient)
      (privateKey : Vector UInt8 32) tr sealed,
        (sealPrivateKey crates kmsClient settings privateKey key).Yields tr (.ok sealed) →
      ((∃ d, (makeDeposit crates kmsClient settings privateKey key).Yields tr (.ok d)) ↔
        HasNames key.keyArn) := by
  -- Both ARNs have passed `kms_region_from_arn`, so they are key ARNs with their fields.
  have hids : ∀ keyArn ∈ [primaryArn, backupArn],
      ((∃ displayId, kmsKeyDisplayId keyArn = .ok displayId) ↔ HasNames keyArn) := by
    intro keyArn hmem
    rcases List.mem_pair.mp hmem with rfl | rfl
    · exact exists_kmsKeyDisplayId_of_fromArn hprimary
    · exact exists_kmsKeyDisplayId_of_fromArn hbackup
  refine ⟨forall₂_congr fun keyArn hmem => ?_,
    fun key hkey kmsClient privateKey tr sealed hsealed => ?_⟩
  · rw [exists_kmsKeyStorageId_iff, and_self, hids keyArn hmem]
  · rw [exists_yields_makeDeposit_iff hsealed]
    rw [hkeys] at hkey
    refine hids key.keyArn (List.mem_pair.mpr ?_)
    rcases List.mem_pair.mp hkey with rfl | rfl
    · exact .inl (keyArn_of_fromArn hprimary)
    · exact .inr (keyArn_of_fromArn hbackup)

/-- Both keys of the deployment have their ids. -/
theorem key_ids_exist_deployment :
    (∀ keyArn ∈ [primaryKey.keyArn, backupKey.keyArn],
      (∃ displayId, kmsKeyDisplayId keyArn = .ok displayId) ∧
        ∃ storageId, kmsKeyStorageId reference keyArn = .ok storageId) ↔
      ∀ keyArn ∈ [primaryKey.keyArn, backupKey.keyArn], HasNames keyArn :=
  (@key_ids_exist_iff reference deployment _ _ primaryKey backupKey (by decide) (by decide) rfl).1

/-- Two ARNs whose key ids are empty are accepted, and have no display ids. -/
theorem key_ids_missing :
    ∃ primary backup,
      KmsKeySettings.fromArn .primary "arn:aws:kms:us-east-1:111122223333:key/" = .ok primary ∧
      KmsKeySettings.fromArn .backup "arn:aws:kms:us-east-1:444455556666:key/" = .ok backup ∧
      validateKmsConfiguration { deployment with kmsKeys := [primary, backup] } = .ok () ∧
      ∀ keyArn ∈ [primary.keyArn, backup.keyArn],
        ¬ ∃ displayId, kmsKeyDisplayId keyArn = .ok displayId := by
  refine ⟨⟨.primary, "arn:aws:kms:us-east-1:111122223333:key/", "us-east-1"⟩,
    ⟨.backup, "arn:aws:kms:us-east-1:444455556666:key/", "us-east-1"⟩, by decide, by decide,
    by decide, ?_⟩
  rintro keyArn hmem ⟨displayId, h⟩
  have hrefused : (kmsKeyDisplayId keyArn).isOk = false := by
    rcases List.mem_pair.mp hmem with rfl | rfl <;> decide
  rw [h] at hrefused
  cases hrefused

end AwsKmsDemo
