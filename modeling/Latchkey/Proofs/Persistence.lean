import Latchkey.Credentials
import Latchkey.Session.Options
import Latchkey.Proofs.Documents
import Latchkey.Proofs.Spans

/-!
# What a client keeps

Credentials and options that have been stored are read back unchanged. A key may be spelled in either case;
stored again it is in lower case.
-/

namespace Latchkey

namespace Credentials

/-- The names of the fields, in the order in which they are stored. -/
def fieldNames : List String := ["authorization_id", "client_secret_key", "device_public_key"]

/-- The text is a document in which credentials stand with this authorization and these texts for the keys. -/
def Stored (text : String) (authorization : UInt32) (client device : String) : Prop :=
  ∃ document number, Json.parse text = some document ∧
    document.fields? fieldNames = some [some number, some (.text client), some (.text device)] ∧
    number.word32? = some authorization

/-- Credentials with these texts for the keys. -/
def document (authorization : UInt32) (client device : String) : Json := Json.record [
  ("authorization_id", .nat authorization.toNat),
  ("client_secret_key", .text client),
  ("device_public_key", .text device)]

variable {c : Credentials} {text client device : String} {authorization : UInt32}

private theorem stored_document (authorization : UInt32) (client device : String) :
    Stored (document authorization client device).render authorization client device := by
  have hnames : fieldNames.Nodup := by decide
  refine ⟨_, _, Json.parse_render ?_, Json.fields?_record hnames, Json.word32?_nat authorization⟩
  refine Json.numbered_record ?_
  simp only [List.forall_mem_cons]
  exact ⟨Json.numbered_nat _, trivial, trivial, nofun⟩

private theorem Stored.unique {authorization' : UInt32} {client' device' : String}
    (h : Stored text authorization client device) (h' : Stored text authorization' client' device') :
    authorization' = authorization ∧ client' = client ∧ device' = device := by
  obtain ⟨document, number, hparse, hfields, hnumber⟩ := h
  obtain ⟨document', number', hparse', hfields', hnumber'⟩ := h'
  rw [hparse] at hparse'
  cases hparse'
  rw [hfields] at hfields'
  cases hfields'
  rw [hnumber] at hnumber'
  cases hnumber'
  exact ⟨rfl, rfl, rfl⟩

private theorem ofJson?_eq_some_iff {document : Json} :
    ofJson? document = some c ↔ ∃ number client device,
      document.fields? fieldNames = some [some number, some (.text client), some (.text device)] ∧
        number.word32? = some c.authorization ∧ c.clientSecret.hex = client.toLower ∧
        c.devicePublic.hex = device.toLower := by
  simp only [← Key.ofHex?_eq_some_iff]
  constructor
  · intro h
    obtain ⟨fields, hfields, hread⟩ := Option.bind_eq_some_iff.mp h
    split at hread
    · rename_i number client device
      simp only [bind, Option.bind_eq_some_iff, Json.text?_eq_some_iff] at hread
      obtain ⟨_, hnumber, _, ⟨client', rfl, hclient⟩, _, ⟨device', rfl, hdevice⟩, ⟨⟩⟩ := hread
      exact ⟨number, client', device', hfields, hnumber, hclient, hdevice⟩
    · cases hread
  · rintro ⟨number, client, device, hfields, hnumber, hclient, hdevice⟩
    have htext (s : String) : (Json.text s).text? = some s := rfl
    rw [fieldNames] at hfields
    rw [ofJson?, hfields]
    simp only [bind, Option.bind_some, hnumber, htext, hclient, hdevice]
    rfl

/-- What is read is what is stored in the text, with the letters of the keys in lower case. -/
theorem parse_eq_some_iff :
    parse text = some c ↔ ∃ client device, Stored text c.authorization client device ∧
      c.clientSecret.hex = client.toLower ∧ c.devicePublic.hex = device.toLower := by
  rw [parse, Option.bind_eq_some_iff]
  simp only [ofJson?_eq_some_iff]
  constructor
  · rintro ⟨document, hparse, number, client, device, hfields, hnumber, hclient, hdevice⟩
    exact ⟨client, device, ⟨document, number, hparse, hfields, hnumber⟩, hclient, hdevice⟩
  · rintro ⟨client, device, ⟨document, number, hparse, hfields, hnumber⟩, hclient, hdevice⟩
    exact ⟨document, hparse, number, client, device, hfields, hnumber, hclient, hdevice⟩

private theorem parse_render (c : Credentials) : parse c.toJson.render = some c := by
  refine parse_eq_some_iff.mpr ⟨_, _, stored_document _ _ _, ?_, ?_⟩
  · exact Key.ofHex?_eq_some_iff.mp (Key.ofHex?_hex _)
  · exact Key.ofHex?_eq_some_iff.mp (Key.ofHex?_hex _)

private theorem isSome_parse (h : Stored text authorization client device) :
    (parse text).isSome ↔ Key.Spelled client ∧ Key.Spelled device := by
  rw [← Key.isSome_ofHex?, ← Key.isSome_ofHex?, Option.isSome_iff_exists, Option.isSome_iff_exists,
    Option.isSome_iff_exists]
  simp only [parse_eq_some_iff, Key.ofHex?_eq_some_iff]
  constructor
  · rintro ⟨c, client', device', hstored, hclient, hdevice⟩
    obtain ⟨-, rfl, rfl⟩ := h.unique hstored
    exact ⟨⟨_, hclient⟩, _, hdevice⟩
  · rintro ⟨⟨clientSecret, hclient⟩, devicePublic, hdevice⟩
    exact ⟨⟨authorization, clientSecret, devicePublic⟩, client, device, h, hclient, hdevice⟩

private theorem toJson_of_parse (h : Stored text authorization client device) (hparse : parse text = some c) :
    c.toJson = document authorization client.toLower device.toLower := by
  obtain ⟨client', device', hstored, hclient, hdevice⟩ := parse_eq_some_iff.mp hparse
  obtain ⟨rfl, rfl, rfl⟩ := h.unique hstored
  rw [toJson, document, hclient, hdevice]

end Credentials

/-- Credentials that have been stored are read back, and with them the public key of the client and the key it
shares with the device. In whatever text credentials stand, they are accepted exactly if each of the two keys
consists of 64 hexadecimal digits of either case, and they are stored again with the same authorization and the
same digits in lower case. Nothing else is accepted as credentials. -/
theorem credentials_restored (c : Credentials) :
    (Credentials.parse c.toJson.render = some c ∧
      (Credentials.parse c.toJson.render).map Credentials.clientPublic = some c.clientPublic ∧
      (Credentials.parse c.toJson.render).map Credentials.sharedKey = some c.sharedKey) ∧
    (∀ text authorization client device, Credentials.Stored text authorization client device →
      ((Credentials.parse text).isSome ↔ Key.Spelled client ∧ Key.Spelled device) ∧
        ∀ kept, Credentials.parse text = some kept →
          kept.toJson = Credentials.document authorization client.toLower device.toLower) ∧
    ∀ text kept, Credentials.parse text = some kept →
      ∃ client device, Credentials.Stored text kept.authorization client device := by
  have hread := c.parse_render
  refine ⟨⟨hread, ?_, ?_⟩, ?_, ?_⟩
  · rw [hread, Option.map_some]
  · rw [hread, Option.map_some]
  · intro text authorization client device hstored
    exact ⟨Credentials.isSome_parse hstored, fun kept hparse => Credentials.toJson_of_parse hstored hparse⟩
  · intro text kept hparse
    obtain ⟨client, device, hstored, -⟩ := Credentials.parse_eq_some_iff.mp hparse
    exact ⟨client, device, hstored⟩

/-- Keys in capital letters are accepted and stored again in small ones. -/
theorem credentials_restored_capitals :
    let client := String.ofList (List.replicate 64 'A')
    let device := String.ofList (List.replicate 64 'E')
    ∃ kept, Credentials.parse (Credentials.document 7 client device).render = some kept ∧
      kept.toJson = Credentials.document 7 (String.ofList (List.replicate 64 'a'))
        (String.ofList (List.replicate 64 'e')) := by
  intro client device
  let key : Key := ⟨List.replicate 32 1, rfl⟩
  have hdigits (d : Char) (hd : Bytes.HexDigit d) : Key.Spelled (String.ofList (List.replicate 64 d)) := by
    rw [Key.Spelled, String.length_ofList, String.toList_ofList]
    exact ⟨rfl, fun c hc => List.eq_of_mem_replicate hc ▸ hd⟩
  have hlower (d : Char) : (String.ofList (List.replicate 64 d)).toLower =
      String.ofList (List.replicate 64 d.toLower) := by
    rw [← String.toList_inj, Key.toList_toLower, String.toList_ofList, String.toList_ofList, List.map_replicate]
  obtain ⟨-, hstored, -⟩ := credentials_restored ⟨7, key, key⟩
  obtain ⟨haccepted, hagain⟩ := hstored _ 7 client device (Credentials.stored_document 7 client device)
  have hspelled : Key.Spelled client ∧ Key.Spelled device :=
    ⟨hdigits 'A' (.inr (.inr (by decide))), hdigits 'E' (.inr (.inr (by decide)))⟩
  obtain ⟨kept, hkept⟩ := Option.isSome_iff_exists.mp (haccepted.mpr hspelled)
  refine ⟨kept, hkept, ?_⟩
  rw [hagain kept hkept, hlower, hlower]
  rfl

namespace Options

private theorem numbered_toJson (o : Options) : o.toJson.Numbered := by
  refine Json.numbered_record ?_
  simp only [List.forall_mem_cons]
  refine ⟨trivial, trivial, Json.numbered_nat _, ?_, trivial, nofun⟩
  cases o.suffix <;> trivial

private theorem optional?_suffix (suffix : Option String) :
    Json.optional? Json.text? ((suffix.map Json.text).getD .null) = some suffix := by
  cases suffix <;> rfl

private theorem parse_render {o : Options} (h : o.timeout.Fits) : parse o.toJson.render = some o := by
  have hnames : ["response_timeout", "label", "app_id", "name_suffix", "verify_device_authenticator"].Nodup := by
    decide
  have hfields : o.toJson.fields? ["response_timeout", "label", "app_id", "name_suffix",
      "verify_device_authenticator"] = some [some (.text o.timeout.text), some (.text o.label),
        some (.nat o.app.toNat), some ((o.suffix.map Json.text).getD .null), some (.bool o.verifyDevice)] :=
    Json.fields?_record hnames
  have htext (s : String) : (Json.text s).text? = some s := rfl
  have hbool (b : Bool) : (Json.bool b).bool? = some b := rfl
  rw [parse, Json.parse_render o.numbered_toJson, Option.bind_some, ofJson?, hfields]
  simp only [bind, Option.bind_some, field, htext, hbool, Span.ofText?_text h, Json.word32?_nat, optional?_suffix]
  rfl

end Options

/-- Options that have been stored are read back as they were, whatever characters are in their texts and however
long the timeout is, provided that it has fewer than `2⁶⁴` seconds. The timeout is written in units that come to
the same nanoseconds and is read from them without loss, so that the options are found valid or not as before. -/
theorem options_restored (o : Options) (h : o.timeout.Fits) :
    Options.parse o.toJson.render = some o ∧
      (Span.total o.timeout.parts = o.timeout.nanoseconds ∧ Span.ofText? o.timeout.text = some o.timeout) ∧
      (Options.parse o.toJson.render).map Options.validate = some o.validate := by
  have hread := Options.parse_render h
  refine ⟨hread, ⟨o.timeout.total_parts, Span.ofText?_text h⟩, ?_⟩
  rw [hread, Option.map_some]

/-- The longest timeout there is, and a label that has to be quoted. -/
theorem options_restored_longest :
    let o : Options := {
      timeout := Span.of 18446744073709551615 999999999
      label := "\"Haustür\"\n"
      suffix := some "\t" }
    o.timeout.Fits ∧ Options.parse o.toJson.render = some o ∧
      (Options.parse o.toJson.render).map Options.validate = some (.ok ()) := by
  intro o
  have hfits : o.timeout.Fits := by decide
  obtain ⟨hread, -, hvalid⟩ := options_restored o hfits
  exact ⟨hfits, hread, hvalid.trans rfl⟩

end Latchkey
