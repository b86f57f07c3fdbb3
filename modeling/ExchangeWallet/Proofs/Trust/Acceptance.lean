import ExchangeWallet.Client
import ExchangeWallet.Proofs.Trust.Layout
/-!
# Which bundles are accepted

A bundle of sound blocks is accepted exactly if a certificate is among them, wherever it
stands, and what is found then is what the certificates say, in their order. One certificate
that is not base64, or one that the file ends in, spoils the bundle, and the certificates
beside it do not help. Whatever goes wrong with a bundle is a fault of the bundle.
-/
namespace ExchangeWallet

namespace Trust

open Base64 (Denotes IsBase64)

/-- The label of a certificate. -/
def certificateLabel : List UInt8 :=
  Text.bytes "CERTIFICATE"

namespace Pem

/-- One label is that of certificates. -/
theorem Kind.ofLabel?_eq_certificate_iff {label : List UInt8} :
    ofLabel? label = some certificate ↔ label = certificateLabel := by
  constructor
  · intro found
    have same := List.find?_some (p := fun kind : Kind => Text.bytes kind.label == label) found
    exact (eq_of_beq same).symm
  · rintro rfl
    decide

section Blocks

variable {block : Block} {contents : List UInt8} {found : List Section}

/-- A certificate of base64 gives what it says. -/
theorem Block.sections_of_certificate (labelled : block.label = certificateLabel)
    (denotes : Denotes block.text contents) :
    block.sections = .ok [⟨.certificate, contents⟩] := by
  rw [sections, Kind.ofLabel?_eq_certificate_iff.mpr labelled]
  dsimp only
  rw [Base64.decode_eq_ok_iff.mpr denotes]
  rfl

/-- A block of another label gives no certificate. -/
theorem Block.filter_sections_of_other (other : block.label ≠ certificateLabel)
    (read : block.sections = .ok found) :
    found.filter (fun part => part.kind = .certificate) = [] := by
  rw [sections] at read
  cases known : Kind.ofLabel? block.label with
  | none =>
    rw [known] at read
    cases read
    rfl
  | some kind =>
    rw [known] at read
    obtain ⟨contents, -, rfl⟩ := map_eq_ok_iff.mp read
    have noCertificate : kind ≠ .certificate := by
      rintro rfl
      exact other (Kind.ofLabel?_eq_certificate_iff.mp known)
    simp [noCertificate]

/-- A block of base64 is read. -/
theorem Block.exists_sections (isBase64 : IsBase64 block.text) :
    ∃ found, block.sections = .ok found := by
  obtain ⟨contents, denotes⟩ := isBase64
  rw [sections, Base64.decode_eq_ok_iff.mpr denotes]
  cases Kind.ofLabel? block.label with
  | none => exact ⟨[], rfl⟩
  | some kind => exact ⟨[⟨kind, contents⟩], rfl⟩

/-- A certificate that is not base64 is refused. -/
theorem Block.not_sections_of_certificate (labelled : block.label = certificateLabel)
    (invalid : ¬ IsBase64 block.text) : ¬ ∃ found, block.sections = .ok found := by
  rintro ⟨found, read⟩
  rw [sections, Kind.ofLabel?_eq_certificate_iff.mpr labelled] at read
  obtain ⟨contents, decoded, -⟩ := map_eq_ok_iff.mp read
  exact invalid ⟨contents, Base64.decode_eq_ok_iff.mp (mapError_eq_ok_iff.mp decoded)⟩

variable {blocks : List Block} {founds : List (List Section)}

/-- The certificates among blocks. -/
def certificateBlocks (blocks : List Block) : List Block :=
  blocks.filter fun block => block.label = certificateLabel

/-- There is a certificate among blocks if what certificates say is not nothing. -/
theorem ne_nil_iff_of_denotes {contents : List (List UInt8)}
    (denoted : List.Forall₂ (fun block certificate => Denotes block.text certificate)
      (certificateBlocks blocks) contents) :
    contents ≠ [] ↔ ∃ block ∈ blocks, block.label = certificateLabel := by
  have length := denoted.length_eq
  rw [← List.length_pos_iff, ← length, List.length_pos_iff_exists_mem]
  simp only [certificateBlocks, List.mem_filter, decide_eq_true_eq]

/-- The certificates among the sections of blocks are those of the blocks that have their
label, in order. -/
theorem forall₂_certificates (sound : ∀ block ∈ blocks, IsBase64 block.text)
    (read : List.Forall₂ (fun block found => block.sections = .ok found) blocks founds) :
    List.Forall₂ (fun block certificate => Denotes block.text certificate)
      (certificateBlocks blocks)
      ((founds.flatten.filter fun part => part.kind = .certificate).map Section.contents) := by
  induction read with
  | nil => exact .nil
  | @cons block found blocks founds first _ inductionHypothesis =>
    obtain ⟨isBase64, behind⟩ := List.forall_mem_cons.mp sound
    rw [List.flatten_cons, List.filter_append, List.map_append]
    by_cases labelled : block.label = certificateLabel
    · obtain ⟨contents, denotes⟩ := isBase64
      obtain rfl : found = [⟨.certificate, contents⟩] :=
        Except.ok.inj (first.symm.trans (Block.sections_of_certificate labelled denotes))
      have more : certificateBlocks (block :: blocks) = block :: certificateBlocks blocks :=
        List.filter_cons_of_pos (decide_eq_true labelled)
      rw [more]
      exact .cons denotes (inductionHypothesis behind)
    · have same : certificateBlocks (block :: blocks) = certificateBlocks blocks :=
        List.filter_cons_of_neg (by simpa using labelled)
      rw [same, Block.filter_sections_of_other labelled first]
      exact inductionHypothesis behind

end Blocks

/-- All blocks are base64, and the file ends outside sections. -/
structure Layout.IsSound (layout : Layout) : Prop where
  whole : layout.cut = none
  base64 : ∀ block ∈ layout.blocks, IsBase64 block.text

/-- A certificate is not base64. Its body runs up to the first line that closes it, and none of
its lines opens another section. -/
structure Begun.IsBroken (begun : Begun) : Prop where
  labelled : begun.label = certificateLabel
  invalid : ¬ IsBase64 begun.text
  enclosed : begun.IsEnclosed

/-- A file has a broken certificate or ends in one, and is sound beside that. -/
structure Layout.IsSpoilt (layout : Layout) : Prop where
  blocks : ∀ block ∈ layout.blocks, IsBase64 block.text ∨ block.IsBroken
  /-- The certificate that the file ends in may say anything, but is not closed. -/
  cut : ∀ begun ∈ layout.cut, begun.label = certificateLabel ∧ begun.IsEnclosed
  spoilt : (∃ block ∈ layout.blocks, block.IsBroken) ∨ layout.cut.isSome

section Layouts

variable {layout : Layout}

/-- A sound file is read, and its certificates are those of its blocks. -/
theorem Layout.IsSound.exists_sections (sound : layout.IsSound) :
    ∃ found, sections layout.bytes = .ok found ∧
      List.Forall₂ (fun block certificate => Denotes block.text certificate)
        (certificateBlocks layout.blocks)
        ((found.filter fun part => part.kind = .certificate).map Section.contents) := by
  obtain ⟨founds, read⟩ := exists_mapM_ok_iff.mpr fun block member =>
    Block.exists_sections (sound.base64 block member)
  have enclosed : ∀ block ∈ layout.blocks, block.IsEnclosed := fun block member =>
    Begun.isEnclosed_of_isBase64 (sound.base64 block member)
  refine ⟨founds.flatten, ?_, forall₂_certificates sound.base64 (mapM_eq_ok_iff.mp read)⟩
  rw [sections_of_whole enclosed sound.whole, read]
  rfl

/-- A spoilt file is not read. -/
theorem Layout.IsSpoilt.exists_fault (isSpoilt : layout.IsSpoilt) :
    ∃ fault, sections layout.bytes = .error fault := by
  have enclosed : ∀ block ∈ layout.blocks, block.IsEnclosed := fun block member =>
    (isSpoilt.blocks block member).elim Begun.isEnclosed_of_isBase64 Begun.IsBroken.enclosed
  cases cut : layout.cut with
  | some begun =>
    rw [sections_of_cut enclosed cut (isSpoilt.cut begun cut).2]
    cases layout.blocks.mapM Block.sections with
    | error fault => exact ⟨fault, rfl⟩
    | ok => exact ⟨.missingEnd begun.label, rfl⟩
  | none =>
    obtain ⟨block, member, broken⟩ := isSpoilt.spoilt.resolve_right (by simp [cut])
    rw [sections_of_whole enclosed cut]
    cases read : layout.blocks.mapM Block.sections with
    | error fault => exact ⟨fault, rfl⟩
    | ok founds =>
      have accepted := exists_mapM_ok_iff.mp ⟨founds, read⟩ block member
      exact absurd accepted (Block.not_sections_of_certificate broken.labelled broken.invalid)

end Layouts

end Pem

section Bundles

variable {files : Files} {path : String} {file : List UInt8}

/-- A path that cannot be read is no bundle. -/
theorem certificates_of_unreadable {fault : ReadFault} (unreadable : files path = .error fault) :
    certificates files path = .error (.unreadable path fault) := by
  rw [certificates, unreadable]
  rfl

/-- A file that is not read as sections is no bundle. -/
theorem certificates_of_malformed (read : files path = .ok file) {fault : Pem.Fault}
    (malformed : Pem.sections file = .error fault) :
    certificates files path = .error (.malformed fault) := by
  rw [certificates, read]
  change (Pem.sections file).mapError Fault.malformed >>= _ = _
  rw [malformed]
  rfl

/-- A file that is read as sections is a bundle if there is a certificate among them. -/
theorem certificates_of_sections (read : files path = .ok file) {found : List Pem.Section}
    (sections : Pem.sections file = .ok found) :
    certificates files path =
      if found.filter (fun part => part.kind = .certificate) = [] then
        .error (.noCertificates path)
      else .ok ((found.filter fun part => part.kind = .certificate).map Pem.Section.contents) := by
  rw [certificates, read]
  change (Pem.sections file).mapError Fault.malformed >>= _ = _
  rw [sections]
  rfl

end Bundles

/-- What becomes of a bundle that is laid out like this. The outcome has the certificates that
are found. -/
structure Pem.Layout.IsJudged (layout : Pem.Layout) (path : String)
    (outcome : Except WalletError (Option (List (List UInt8)))) : Prop where
  /-- Sound blocks are accepted exactly if a certificate is among them. -/
  accepted_iff : layout.IsSound →
    ((∃ certificates, outcome = .ok certificates) ↔
      ∃ block ∈ layout.blocks, block.label = certificateLabel)
  /-- What is found then is what the certificates say, in their order. -/
  found : layout.IsSound → ∀ certificates, outcome = .ok certificates →
    ∃ contents, certificates = some contents ∧
      List.Forall₂ (fun block certificate => Denotes block.text certificate)
        (Pem.certificateBlocks layout.blocks) contents
  /-- Sound blocks without a certificate are refused for that. -/
  bare : layout.IsSound → (∀ block ∈ layout.blocks, block.label ≠ certificateLabel) →
    outcome = .error (.trust (.noCertificates path))
  /-- A broken certificate, or one that the file ends in, spoils the bundle. -/
  rejected : layout.IsSpoilt → ∃ fault, outcome = .error (.trust (.malformed fault))

end Trust

section Certificates

open Settings (Configuration)
open Trust.Base64 (Denotes)
open Trust.Pem (Begun Block Kind Layout Part certificateBlocks ne_nil_iff_of_denotes plain_of_all)

variable {files : Trust.Files} {configuration : Configuration} {path : String}

/-- A configuration with a bundle has the certificates of the bundle. -/
theorem Client.certificatesOf_of_named (named : configuration.bundle = some path) :
    certificatesOf files configuration =
      ((Trust.certificates files path).map some).mapError .trust := by
  rw [certificatesOf, named]

/-- What is found in a sound file is what its certificates say, if there is one. -/
theorem Client.certificatesOf_of_isSound {layout : Layout}
    (named : configuration.bundle = some path) (sound : layout.IsSound)
    (read : files path = .ok layout.bytes) :
    ∃ contents, List.Forall₂ (fun block certificate => Denotes block.text certificate)
        (certificateBlocks layout.blocks) contents ∧
      certificatesOf files configuration =
        if contents = [] then .error (.trust (.noCertificates path)) else .ok (some contents) := by
  obtain ⟨found, sections, denoted⟩ := sound.exists_sections
  refine ⟨_, denoted, ?_⟩
  rw [certificatesOf_of_named named, Trust.certificates_of_sections read sections]
  simp only [List.map_eq_nil_iff]
  split_ifs <;> rfl

/-- A path that holds a layout is judged by the layout. -/
theorem Trust.Pem.Layout.isJudged (layout : Layout) (named : configuration.bundle = some path)
    (read : files path = .ok layout.bytes) :
    layout.IsJudged path (Client.certificatesOf files configuration) where
  accepted_iff := by
    intro sound
    obtain ⟨contents, denoted, judged⟩ := Client.certificatesOf_of_isSound named sound read
    rw [judged, ← ne_nil_iff_of_denotes denoted]
    split_ifs with nothing
    · exact iff_of_false (fun ⟨_, accepted⟩ => by cases accepted) (not_not.mpr nothing)
    · exact iff_of_true ⟨some contents, rfl⟩ nothing
  found := by
    intro sound certificates accepted
    obtain ⟨contents, denoted, judged⟩ := Client.certificatesOf_of_isSound named sound read
    rw [judged] at accepted
    split_ifs at accepted with nothing
    exact ⟨contents, (Except.ok.inj accepted).symm, denoted⟩
  bare := by
    intro sound without
    obtain ⟨contents, denoted, judged⟩ := Client.certificatesOf_of_isSound named sound read
    have nothing : contents = [] := by
      by_contra something
      obtain ⟨block, member, labelled⟩ := (ne_nil_iff_of_denotes denoted).mp something
      exact without block member labelled
    rw [judged, if_pos nothing]
  rejected := by
    intro isSpoilt
    obtain ⟨fault, malformed⟩ := isSpoilt.exists_fault
    rw [Client.certificatesOf_of_named named, Trust.certificates_of_malformed read malformed]
    exact ⟨fault, rfl⟩

/-- A bundle stands or falls as a whole. Among sound blocks one certificate is enough, wherever
it stands; one that is broken or not closed is enough to refuse it. Whatever is refused, for
this or because the path cannot be read, is an error of trust. -/
theorem bundle_judged_as_whole (files : Trust.Files) (configuration : Configuration)
    (path : String) (named : configuration.bundle = some path) :
    (∀ layout : Layout, files path = .ok layout.bytes →
      layout.IsJudged path (Client.certificatesOf files configuration)) ∧
    (∀ fault, files path = .error fault →
      Client.certificatesOf files configuration = .error (.trust (.unreadable path fault))) ∧
    (∀ error, Client.certificatesOf files configuration = .error error → error.kind = .trust) := by
  refine ⟨?_, ?_, ?_⟩
  · intro layout read
    exact layout.isJudged named read
  · intro fault unreadable
    rw [Client.certificatesOf_of_named named, Trust.certificates_of_unreadable unreadable]
    rfl
  · intro error refused
    rw [Client.certificatesOf_of_named named] at refused
    cases found : Trust.certificates files path with
    | ok certificates =>
      rw [found] at refused
      cases refused
    | error fault =>
      rw [found] at refused
      cases refused
      rfl

/-- A certificate behind a key and a note is found. One behind which another is begun and not
closed is not. -/
theorem certificate_behind_key_found :
    Client.certificatesOf
        (fun _ => .ok (Text.bytes <|
          "-----BEGIN PUBLIC KEY-----\nQUJD\n-----END PUBLIC KEY-----\nnote\n" ++
            "-----BEGIN CERTIFICATE-----\nRA==\n-----END CERTIFICATE-----\n"))
        ⟨"", none, none, some "ca.pem"⟩ = .ok (some [Text.bytes "D"]) ∧
      ∃ fault, Client.certificatesOf
        (fun _ => .ok (Text.bytes <|
          "-----BEGIN CERTIFICATE-----\nRA==\n-----END CERTIFICATE-----\n" ++
            "-----BEGIN CERTIFICATE-----\nRA==\n"))
        ⟨"", none, none, some "ca.pem"⟩ = .error (.trust (.malformed fault)) := by
  let key : Block :=
    .ofBody (Text.bytes "PUBLIC KEY") (Kind.isLabel .publicKey)
      [.ofContent (Text.bytes "QUJD") (plain_of_all (by decide))]
  let certificate : Block :=
    .ofBody Trust.certificateLabel (Kind.isLabel .certificate)
      [.ofContent (Text.bytes "RA==") (plain_of_all (by decide))]
  let note : Part :=
    .note (.ofContent (Text.bytes "note") (plain_of_all (by decide))) (by decide)
  have judged (layout : Layout) := (bundle_judged_as_whole (fun _ => .ok layout.bytes)
    ⟨"", none, none, some "ca.pem"⟩ "ca.pem" rfl).1 layout rfl
  constructor
  · let layout : Layout := ⟨[.block key, note, .block certificate], none, by decide +kernel⟩
    have sound : layout.IsSound := ⟨rfl, by decide +kernel⟩
    have blocks : layout.blocks = [key, certificate] := rfl
    obtain ⟨_, accepted⟩ := ((judged layout).accepted_iff sound).mpr
      ⟨certificate, by simp [blocks], rfl⟩
    obtain ⟨contents, rfl, denoted⟩ := (judged layout).found sound _ accepted
    obtain ⟨said, _, denotes, ⟨⟩, rfl⟩ :=
      List.forall₂_cons_left_iff.mp (show List.Forall₂ _ [certificate] contents from denoted)
    have decoded : Trust.Base64.decode certificate.text = .ok (Text.bytes "D") := rfl
    obtain rfl : Text.bytes "D" = said :=
      Except.ok.inj (decoded.symm.trans (Trust.Base64.decode_eq_ok_iff.mpr denotes))
    exact accepted
  · let layout : Layout := ⟨[.block certificate], some certificate.toBegun, by decide +kernel⟩
    have base64 : ∀ block ∈ layout.blocks, Trust.Base64.IsBase64 block.text := by decide +kernel
    have enclosed := Begun.isEnclosed_of_isBase64 (base64 certificate List.mem_cons_self)
    have begun : ∀ begun ∈ layout.cut, begun.label = Trust.certificateLabel ∧
        begun.IsEnclosed := by
      rintro _ ⟨⟩
      exact ⟨rfl, enclosed⟩
    have spoilt : layout.IsSpoilt :=
      ⟨fun block member => .inl (base64 block member), begun, .inr rfl⟩
    exact (judged layout).rejected spoilt

end Certificates

end ExchangeWallet
