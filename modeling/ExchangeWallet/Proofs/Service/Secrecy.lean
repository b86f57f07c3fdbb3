import ExchangeWallet.Proofs.Service.Call
/-!
# Secrecy of the credentials

The secret is used in one place, for the value of the signature, and the key in one, for
the value of the header that sends it along. Nothing else that can be seen of a run of
calls tells them, neither a result with its errors nor a count nor any other part of a
request. This is said of two runs: if they differ in one credential only, and the server
answers alike, they look alike with one header taken out of sight.

That a credential is there can be seen, and so neither of the two may be empty.
-/
namespace ExchangeWallet

open Json (Value)
open Signing (NonceSource Permission Request Signer)

/-- The request with the value of one header out of sight. -/
def Signing.Request.masked (name : String) (request : Request) : Request :=
  let mask (header : String × String) := if header.1 = name then (name, "") else header
  { request with headers := request.headers.map mask }

/-- The outcome of a call with the value of one header out of sight. -/
def Outcome.masked (name : String) (outcome : Outcome) : Outcome :=
  { outcome with sent := outcome.sent.map (Request.masked name) }

/-- Two signers answer alike, up to the value of one header. -/
def Signing.Signer.AlikeBut (name : String) (first second : Signer) : Prop :=
  ∀ permission endpoint body source,
    (first.request permission endpoint body source).1.map (Request.masked name) =
        (second.request permission endpoint body source).1.map (Request.masked name) ∧
      (first.request permission endpoint body source).2 =
        (second.request permission endpoint body source).2

section Signer

variable (baseUrl : String) {first second : String}

/-- A composed request tells the secret in the value of its signature only. -/
theorem compose_masked_signature (key : String) (permission : Permission) (endpoint : String)
    (body : Value) (nonce : UInt64) :
    (Signer.compose baseUrl key first permission endpoint body nonce).masked "bfx-signature" =
      (Signer.compose baseUrl key second permission endpoint body nonce).masked
        "bfx-signature" := by
  simp [Request.masked, Signer.compose]

/-- A composed request tells the key in the header that sends it along only. -/
theorem compose_masked_key (secret : String) (permission : Permission) (endpoint : String)
    (body : Value) (nonce : UInt64) :
    (Signer.compose baseUrl first secret permission endpoint body nonce).masked "bfx-apikey" =
      (Signer.compose baseUrl second secret permission endpoint body nonce).masked
        "bfx-apikey" := by
  simp [Request.masked, Signer.compose]

/-- Signers that are made of two secrets answer alike up to the signature. -/
theorem alikeBut_signature (hasFirst : first ≠ "") (hasSecond : second ≠ "")
    (key : Option String) :
    Signer.AlikeBut "bfx-signature" (.ofParts baseUrl key (some first))
      (.ofParts baseUrl key (some second)) := by
  intro permission endpoint body source
  cases hasKey : Signer.nonempty key with
  | none => simp [Signer.request, Signer.ofParts, hasKey]
  | some text =>
    have isFirst := Signer.nonempty_some hasFirst
    have isSecond := Signer.nonempty_some hasSecond
    rw [Signer.request_of_complete _ _ _ _ hasKey isFirst,
      Signer.request_of_complete _ _ _ _ hasKey isSecond]
    exact ⟨congrArg Except.ok (compose_masked_signature ..), rfl⟩

/-- Signers that are made of two keys answer alike up to the header of the key. -/
theorem alikeBut_key (hasFirst : first ≠ "") (hasSecond : second ≠ "") (secret : Option String) :
    Signer.AlikeBut "bfx-apikey" (.ofParts baseUrl (some first) secret)
      (.ofParts baseUrl (some second) secret) := by
  intro permission endpoint body source
  cases hasSecret : Signer.nonempty secret with
  | none => simp [Signer.request, Signer.ofParts, hasSecret]
  | some text =>
    have isFirst := Signer.nonempty_some hasFirst
    have isSecond := Signer.nonempty_some hasSecond
    rw [Signer.request_of_complete _ _ _ _ isFirst hasSecret,
      Signer.request_of_complete _ _ _ _ isSecond hasSecret]
    exact ⟨congrArg Except.ok (compose_masked_key ..), rfl⟩

/-- Written for inspection, a credential that is there looks like any other. -/
theorem inspectCredential_of_nonempty (hasFirst : first ≠ "") (hasSecond : second ≠ "") :
    Signer.inspectCredential (Signer.nonempty (some first)) =
      Signer.inspectCredential (Signer.nonempty (some second)) := by
  rw [Signer.nonempty_some hasFirst, Signer.nonempty_some hasSecond]
  rfl

/-- Written for inspection, signers are told apart by what they show only. -/
theorem inspect_of_shown {signer other : Signer} (base : signer.baseUrl = other.baseUrl)
    (keys : Signer.inspectCredential signer.key = Signer.inspectCredential other.key)
    (secrets : Signer.inspectCredential signer.secret = Signer.inspectCredential other.secret) :
    signer.inspect = other.inspect := by
  unfold Signer.inspect
  rw [base, keys, secrets]

end Signer

namespace Service

/-- Two services that are at the same point of their nonces and counts, and whose signers
answer alike up to the value of one header. -/
structure AlikeBut (name : String) (first second : Service) : Prop where
  signer : first.signer.AlikeBut name second.signer
  source : first.source = second.source
  built : first.built = second.built

/-- A script of operations, each with what the server answers if it is asked. -/
abbrev Script :=
  List (Operation × Except WalletError Value)

/-- The calls of a script. -/
def calls (script : Script) : List (Operation × Executor) :=
  script.map fun entry => (entry.1, fun _ => entry.2)

/-- What can be seen of a run with the value of one header out of sight: of every call its
result, its request and the count up to it, and in the end the source of the nonces. -/
def view (name : String) (run : List (Outcome × Nat) × Service) :
    List (Outcome × Nat) × NonceSource :=
  (run.1.map fun entry => (entry.1.masked name, entry.2), run.2.source)

variable {name : String} {first second : Service}

/-- One call with one answer looks alike on both services, and leaves them alike. Whether
there is a request is seen of the masked one; what is in it has no part in the result. -/
theorem AlikeBut.call (alike : AlikeBut name first second) (operation : Operation)
    (answer : Except WalletError Value) :
    (first.call operation fun _ => answer).1.masked name =
        (second.call operation fun _ => answer).1.masked name ∧
      AlikeBut name (first.call operation fun _ => answer).2
        (second.call operation fun _ => answer).2 := by
  cases drafted : operation.draft with
  | error error =>
    rw [first.call_of_refused _ drafted, second.call_of_refused _ drafted]
    exact ⟨rfl, alike⟩
  | ok draft =>
    obtain ⟨requests, sources⟩ :=
      alike.signer draft.permission draft.endpoint draft.body first.source
    rw [first.call_of_draft _ drafted, second.call_of_draft _ drafted, ← alike.source,
      ← alike.built, ← sources]
    refine ⟨?_, alike.signer, rfl, rfl⟩
    -- Under the mask a request still shows that it is there, and the result asks for no more.
    have results (requested : Except WalletError Request) (result : Except WalletError Answer) :
        (requested >>= fun _ => result) =
          requested.map (Request.masked name) >>= fun _ => result := by
      cases requested <;> rfl
    have sends (requested : Except WalletError Request) :
        requested.toOption.toList.map (Request.masked name) =
          (requested.map (Request.masked name)).toOption.toList := by
      cases requested <;> rfl
    rw [Outcome.masked, Outcome.masked]
    simp only [sends]
    rw [results, requests, ← results]

/-- Alike services run alike. -/
theorem AlikeBut.run (alike : AlikeBut name first second) (script : Script) :
    view name (first.run (calls script)) = view name (second.run (calls script)) := by
  induction script generalizing first second with
  | nil => exact congrArg (Prod.mk []) alike.source
  | cons entry rest inductionHypothesis =>
    obtain ⟨outcomes, called⟩ := alike.call entry.1 entry.2
    obtain ⟨others, source⟩ := Prod.mk.inj (inductionHypothesis called)
    have seen : ((first.call entry.1 fun _ => entry.2).1.masked name,
          (first.call entry.1 fun _ => entry.2).2.built) =
        ((second.call entry.1 fun _ => entry.2).1.masked name,
          (second.call entry.1 fun _ => entry.2).2.built) := by
      rw [outcomes, called.built]
    exact Prod.ext (congrArg₂ List.cons seen others) source

/-- Two runs of one script with two secrets look alike but for the signatures, and two with
two keys but for the header of the key. So do the signers themselves, written for
inspection. -/
theorem credentials_only_in_their_headers (baseUrl : String) (source : NonceSource)
    (script : Script) {first second : String} (hasFirst : first ≠ "") (hasSecond : second ≠ "") :
    (∀ key,
      let signer := Signer.ofParts baseUrl key (some first)
      let other := Signer.ofParts baseUrl key (some second)
      view "bfx-signature" ((start signer source).run (calls script)) =
          view "bfx-signature" ((start other source).run (calls script)) ∧
        signer.inspect = other.inspect) ∧
      ∀ secret,
        let signer := Signer.ofParts baseUrl (some first) secret
        let other := Signer.ofParts baseUrl (some second) secret
        view "bfx-apikey" ((start signer source).run (calls script)) =
            view "bfx-apikey" ((start other source).run (calls script)) ∧
          signer.inspect = other.inspect := by
  constructor
  · intro key signer other
    have alike : AlikeBut "bfx-signature" (start signer source) (start other source) :=
      ⟨alikeBut_signature baseUrl hasFirst hasSecond key, rfl, rfl⟩
    refine ⟨alike.run script, inspect_of_shown rfl rfl ?_⟩
    exact inspectCredential_of_nonempty hasFirst hasSecond
  · intro secret signer other
    have alike : AlikeBut "bfx-apikey" (start signer source) (start other source) :=
      ⟨alikeBut_key baseUrl hasFirst hasSecond secret, rfl, rfl⟩
    refine ⟨alike.run script, inspect_of_shown rfl ?_ rfl⟩
    exact inspectCredential_of_nonempty hasFirst hasSecond

/-- A refused question, a payload of a wrong shape and a failed withdrawal, run with a short
and a long secret. -/
theorem wrong_payload_tells_no_secret :
    let script : Script :=
      [(.movements none none (some 1001), .ok .null), (.wallets, .ok (.array [.null])),
        (.withdraw ⟨"exchange", "bitcoin", ⟨false, 150, 2, by decide, by decide⟩, "bc1", none⟩,
          .error (.api 10001 "insufficient balance"))]
    let signer (secret : String) := Signer.ofParts "http://localhost" (some "key") (some secret)
    view "bfx-signature" ((start (signer "s") ⟨.epoch, 41⟩).run (calls script)) =
        view "bfx-signature" ((start (signer "another secret") ⟨.epoch, 41⟩).run (calls script)) ∧
      (signer "s").inspect = (signer "another secret").inspect := by
  intro script signer
  have short : "s" ≠ "" := by decide
  have long : "another secret" ≠ "" := by decide
  exact (credentials_only_in_their_headers "http://localhost" ⟨.epoch, 41⟩ script short long).1
    (some "key")

end Service

end ExchangeWallet
