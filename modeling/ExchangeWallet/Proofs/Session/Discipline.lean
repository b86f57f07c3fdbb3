import ExchangeWallet.Proofs.Service.Secrecy
import ExchangeWallet.Proofs.Session.Course
import ExchangeWallet.Proofs.Settings.Population
import ExchangeWallet.Proofs.Signing.NonceLaw
/-!
# The discipline of a session

A session posts two requests at most, and the second only behind the first, with a larger
nonce. Whatever it does, it does not tell its secret: with another secret in the same
place, and as long as it gets the same replies, it shows the same events, ends in the same way
and posts the same requests, up to their signatures.
-/
namespace ExchangeWallet

open Http (Exchange)
open Log (Event)
open Settings (Attempt Configuration Credential Environment Keychain)
open Signing (NonceSource Permission Request Signer)

namespace Report

/-- The report with the value of one header out of sight in every request. -/
def masked (name : String) (report : Report) : Report :=
  { report with exchanged := report.exchanged.map (Prod.map (Request.masked name) id) }

/-- Events and exchanges in front of a report are masked on their own. -/
theorem masked_behind (name : String) (report : Report) (events : List Event)
    (exchanged : List (Request × Option Reply)) :
    (report.behind events exchanged).masked name =
      (report.masked name).behind events (exchanged.map (Prod.map (Request.masked name) id)) := by
  simp [masked, behind]

/-- What came of the requests, in their order. -/
def received (report : Report) : List (Option Reply) :=
  report.exchanged.map Prod.snd

/-- Two reports have the same replies, as far as both have any. -/
def GetsSame (first second : Report) : Prop :=
  ∀ (place : Nat) reply other, first.received[place]? = some reply →
    second.received[place]? = some other → reply = other

/-- Behind an exchange each, two reports have the same replies if they have on the whole. -/
theorem GetsSame.of_behind {first second : Report} {events otherEvents : List Event}
    {exchanged other : Request × Option Reply}
    (same : (first.behind events [exchanged]).GetsSame (second.behind otherEvents [other])) :
    first.GetsSame second :=
  fun place reply other got gotToo => same (place + 1) reply other got gotToo

end Report

/-- A mask leaves the path of a request. -/
theorem Signing.Request.path_masked (name : String) (request : Request) :
    (request.masked name).path = request.path :=
  rfl

namespace Session

/-- The requests that calls send carry nonces that increase and are above the last nonce
before. A call that is not signed ends the calls; one that is signed takes a nonce above
the last, and if others follow, their nonces are above this one. -/
theorem calls_nonces (program : List (Event × Operation)) (service : Service)
    (exchanges : Nat → Exchange) (room : service.source.HasRoom (2 ^ 64) program.length) :
    ∃ nonces : List Nat,
      (calls service exchanges program).sent.map Request.nonce? = nonces.map some ∧
      nonces.Pairwise (· < ·) ∧ ∀ nonce ∈ nonces, service.source.last.toNat < nonce := by
  induction program generalizing service exchanges with
  | nil => exact ⟨[], rfl, .nil, by simp⟩
  | cons call rest inductionHypothesis =>
    obtain ⟨sending, operation⟩ := call
    rcases service.call_cases operation with
      ⟨error, refused⟩ | ⟨draft, drafted, incomplete⟩ |
      ⟨draft, key, secret, drafted, hasKey, hasSecret⟩
    · rw [calls_of_refused service exchanges sending rest refused]
      exact ⟨[], rfl, .nil, by simp⟩
    · rw [calls_of_incomplete service exchanges sending rest drafted incomplete]
      exact ⟨[], rfl, .nil, by simp⟩
    · have first : service.source.last.toNat < service.source.issue.1.toNat :=
        NonceSource.last_lt_issue room
      have head : (service.composed key secret draft).nonce? =
          some service.source.issue.1.toNat := Signing.nonce?_compose ..
      cases answered : Http.executor (exchanges 0) (service.composed key secret draft) >>=
          operation.decode with
      | error error =>
        rw [calls_of_failed service exchanges sending rest drafted hasKey hasSecret answered]
        refine ⟨[service.source.issue.1.toNat], ?_, List.pairwise_singleton ..,
          by simpa using first⟩
        simp [Report.sent, Report.behind, Report.ofResult, head]
      | ok answer =>
        rw [calls_of_answered service exchanges sending rest drafted hasKey hasSecret answered]
        obtain ⟨nonces, carried, increase, above⟩ := inductionHypothesis
          { service with source := service.source.issue.2, built := service.built + 1 }
          (fun later => exchanges (later + 1)) room.issue
        refine ⟨service.source.issue.1.toNat :: nonces, ?_,
          List.pairwise_cons.mpr ⟨above, increase⟩, List.forall_mem_cons.mpr ⟨first, ?_⟩⟩
        · rw [Report.sent] at carried
          simp [Report.sent, Report.behind, head, carried]
        · intro nonce member
          exact Nat.lt_trans first (above nonce member)

/-- The first exchange of calls is the one of their first request, whatever comes of it. -/
theorem calls_received_head {service : Service} {operation : Operation} {draft : Draft}
    {key secret : String} (drafted : operation.draft = .ok draft)
    (hasKey : service.signer.key = some key) (hasSecret : service.signer.secret = some secret)
    (exchanges : Nat → Exchange) (sending : Event) (rest : List (Event × Operation)) :
    (calls service exchanges ((sending, operation) :: rest)).received[0]? =
      some (exchanges 0 (service.composed key secret draft)) := by
  cases answered : Http.executor (exchanges 0) (service.composed key secret draft) >>=
      operation.decode with
  | error error =>
    rw [calls_of_failed service exchanges sending rest drafted hasKey hasSecret answered]
    rfl
  | ok answer =>
    rw [calls_of_answered service exchanges sending rest drafted hasKey hasSecret answered]
    rfl

/-- The events of an exchange show the path of its request, and nothing else of it. -/
theorem exchangeEvents_congr {request other : Request} (same : request.path = other.path)
    (sending : Event) (reply : Option Reply) :
    exchangeEvents sending (request, reply) = exchangeEvents sending (other, reply) := by
  cases reply with
  | none => rfl
  | some reply => simp only [exchangeEvents, same]

/-- Two services at the same point, whose signers differ in the contents of the secret at
most. -/
structure SameButSecret (first second : Service) : Prop where
  baseUrl : first.signer.baseUrl = second.signer.baseUrl
  key : first.signer.key = second.signer.key
  secret : first.signer.secret.isSome = second.signer.secret.isSome
  source : first.source = second.source

section Services

variable {first second : Service}

/-- Behind a call each, two such services are still alike. -/
theorem SameButSecret.issue (same : SameButSecret first second) :
    SameButSecret { first with source := first.source.issue.2, built := first.built + 1 }
      { second with source := second.source.issue.2, built := second.built + 1 } :=
  ⟨same.baseUrl, same.key, same.secret, by rw [same.source]⟩

/-- What they compose of a draft differs in the signature at most. -/
theorem SameButSecret.composed (same : SameButSecret first second) (key secret other : String)
    (draft : Draft) :
    (first.composed key secret draft).masked "bfx-signature" =
      (second.composed key other draft).masked "bfx-signature" := by
  rw [Service.composed, Service.composed, same.baseUrl, same.source]
  exact compose_masked_signature ..

/-- They post it to the same path. -/
theorem SameButSecret.path (same : SameButSecret first second) (key secret other : String)
    (draft : Draft) :
    (first.composed key secret draft).path = (second.composed key other draft).path := by
  rw [← Signing.Request.path_masked "bfx-signature", same.composed key secret other,
    Signing.Request.path_masked]

/-- The calls of two such services are reported alike, as long as they get the same replies. A
request shows in its signature alone which secret it was signed with, and if the first replies
are the same, the calls go on alike or end alike. -/
theorem calls_masked (program : List (Event × Operation)) (same : SameButSecret first second)
    (exchanges others : Nat → Exchange)
    (gets : (calls first exchanges program).GetsSame (calls second others program)) :
    (calls first exchanges program).masked "bfx-signature" =
      (calls second others program).masked "bfx-signature" := by
  induction program generalizing first second exchanges others with
  | nil => rfl
  | cons call rest inductionHypothesis =>
    obtain ⟨sending, operation⟩ := call
    rcases first.call_cases operation with
      ⟨error, refused⟩ | ⟨draft, drafted, incomplete⟩ |
      ⟨draft, key, secret, drafted, hasKey, hasSecret⟩
    · rw [calls_of_refused first exchanges sending rest refused,
        calls_of_refused second others sending rest refused]
    · have incompleteToo : second.signer.isComplete = false := by
        rw [← incomplete, Signer.isComplete, Signer.isComplete, same.key, same.secret]
      rw [calls_of_incomplete first exchanges sending rest drafted incomplete,
        calls_of_incomplete second others sending rest drafted incompleteToo]
    · have hasKeyToo : second.signer.key = some key := same.key ▸ hasKey
      obtain ⟨other, hasOther⟩ : ∃ other, second.signer.secret = some other := by
        rw [← Option.isSome_iff_exists, ← same.secret, hasSecret]
        rfl
      have masked := same.composed key secret other draft
      have replied : exchanges 0 (first.composed key secret draft) =
          others 0 (second.composed key other draft) :=
        gets 0 _ _ (calls_received_head drafted hasKey hasSecret exchanges sending rest)
          (calls_received_head drafted hasKeyToo hasOther others sending rest)
      have executed : Http.executor (exchanges 0) (first.composed key secret draft) =
          Http.executor (others 0) (second.composed key other draft) := by
        rw [Http.executor, Http.executor, replied]
      have events : exchangeEvents sending (first.composed key secret draft,
            exchanges 0 (first.composed key secret draft)) =
          exchangeEvents sending (second.composed key other draft,
            others 0 (second.composed key other draft)) := by
        rw [replied]
        exact exchangeEvents_congr (same.path ..) sending _
      cases answered : Http.executor (exchanges 0) (first.composed key secret draft) >>=
          operation.decode with
      | error error =>
        have answeredToo := answered
        rw [executed] at answeredToo
        rw [calls_of_failed first exchanges sending rest drafted hasKey hasSecret answered,
          calls_of_failed second others sending rest drafted hasKeyToo hasOther answeredToo,
          events, Report.masked_behind, Report.masked_behind, List.map_singleton,
          List.map_singleton, Prod.map_apply, Prod.map_apply, masked, replied]
      | ok answer =>
        have answeredToo := answered
        rw [executed] at answeredToo
        rw [calls_of_answered first exchanges sending rest drafted hasKey hasSecret answered,
          calls_of_answered second others sending rest drafted hasKeyToo hasOther answeredToo]
          at gets ⊢
        rw [events, Report.masked_behind, Report.masked_behind, List.map_singleton,
          List.map_singleton, Prod.map_apply, Prod.map_apply, masked, replied,
          inductionHypothesis same.issue _ _ gets.of_behind]

end Services

end Session

/-- Surroundings that differ in the contents of the secret at most. Its variable and its
entry in the keychain may hold other texts, if both hold one. -/
structure Surroundings.SameButSecret (first second : Surroundings) : Prop where
  files : first.files = second.files
  builds : first.builds = second.builds
  source : first.source = second.source
  otherVariables : ∀ name, name ≠ Credential.secret.variableName →
    first.environment.get? name = second.environment.get? name
  secretVariable :
    first.environment.get? Credential.secret.variableName =
        second.environment.get? Credential.secret.variableName ∨
      (first.environment.text? Credential.secret.variableName).isSome ∧
        (second.environment.text? Credential.secret.variableName).isSome
  otherEntries : ∀ name, name ≠ Credential.secret.entryName →
    first.keychain name = second.keychain name
  secretEntry :
    first.keychain Credential.secret.entryName = second.keychain Credential.secret.entryName ∨
      (first.keychain.lookup .secret).value?.isSome ∧
        (second.keychain.lookup .secret).value?.isSome

/-- The surroundings once the credentials are filled in. -/
def Surroundings.filled (surroundings : Surroundings) : Surroundings :=
  { surroundings with
    environment := (surroundings.environment.fillFrom surroundings.keychain).1 }

/-- The configuration that surroundings show, with each credential as its variable has it. -/
def Surroundings.shown (surroundings : Surroundings) : Configuration :=
  surroundings.environment.configured fun credential =>
    surroundings.environment.text? credential.variableName

/-- Surroundings whose environments show the same texts, but for the secret, which both show or
neither. -/
structure Surroundings.LookAlike (first second : Surroundings) : Prop where
  files : first.files = second.files
  builds : first.builds = second.builds
  source : first.source = second.source
  texts : ∀ name, name ≠ Credential.secret.variableName →
    first.environment.text? name = second.environment.text? name
  secret : (first.environment.text? Credential.secret.variableName).isSome =
    (second.environment.text? Credential.secret.variableName).isSome

section Secret

/-- What looking up a credential shows where it gives one. -/
theorem attemptEvents_of_given (credential : Credential) {lookup : Settings.Lookup}
    (given : lookup.value?.isSome = true) :
    Session.attemptEvents ⟨credential, lookup⟩ = [.credentialLoaded credential] := by
  cases lookup with
  | found text =>
    have filled : text ≠ "" := by
      rintro rfl
      cases given
    simp [Session.attemptEvents, filled]
  | nothing => cases given
  | failed fault => cases given

variable {first second : Surroundings}

/-- The entry of the key gives the same in both. -/
theorem Surroundings.SameButSecret.lookup_key (same : first.SameButSecret second) :
    first.keychain.lookup .key = second.keychain.lookup .key :=
  congrArg Settings.Entry.lookup (same.otherEntries _ (by decide))

/-- Each credential is looked up in both, or in neither. -/
theorem Surroundings.SameButSecret.lookedUp (same : first.SameButSecret second)
    (credential : Credential) :
    first.environment.text? credential.variableName = none ↔
      second.environment.text? credential.variableName = none := by
  cases credential with
  | key => rw [Environment.text?_congr (same.otherVariables _ (by decide))]
  | secret =>
    rcases same.secretVariable with equal | ⟨inFirst, inSecond⟩
    · rw [Environment.text?_congr equal]
    · exact iff_of_false (Option.isSome_iff_ne_none.mp inFirst)
        (Option.isSome_iff_ne_none.mp inSecond)

/-- Looking up a credential shows the same events, and gives it in both or in neither. -/
theorem Surroundings.SameButSecret.looked (same : first.SameButSecret second)
    (credential : Credential) :
    Session.attemptEvents ⟨credential, first.keychain.lookup credential⟩ =
        Session.attemptEvents ⟨credential, second.keychain.lookup credential⟩ ∧
      (first.keychain.lookup credential).value?.isSome =
        (second.keychain.lookup credential).value?.isSome := by
  cases credential with
  | key =>
    rw [same.lookup_key]
    exact ⟨rfl, rfl⟩
  | secret =>
    rcases same.secretEntry with equal | ⟨inFirst, inSecond⟩
    · have equal : first.keychain.lookup .secret = second.keychain.lookup .secret :=
        congrArg Settings.Entry.lookup equal
      rw [equal]
      exact ⟨rfl, rfl⟩
    · rw [attemptEvents_of_given _ inFirst, attemptEvents_of_given _ inSecond, inFirst, inSecond]
      exact ⟨rfl, rfl⟩

/-- Filling in shows the same events. -/
theorem Surroundings.SameButSecret.fillEvents (same : first.SameButSecret second) :
    Session.fillEvents (first.environment.fillFrom first.keychain).2 =
      Session.fillEvents (second.environment.fillFrom second.keychain).2 := by
  rw [Session.fillEvents, Session.fillEvents, Settings.filledBy_fillFrom,
    Settings.filledBy_fillFrom, Settings.attempts_fillFrom, Settings.attempts_fillFrom]
  simp only [List.flatMap_map, same.lookedUp, (same.looked _).1, (same.looked _).2]

/-- Filled in, the two look alike. -/
theorem Surroundings.SameButSecret.lookAlike (same : first.SameButSecret second) :
    first.filled.LookAlike second.filled := by
  refine ⟨same.files, same.builds, same.source, ?_, ?_⟩ <;> simp only [Surroundings.filled]
  · intro name other
    have unfilled := Environment.text?_congr (same.otherVariables name other)
    by_cases isKey : name = Credential.key.variableName
    · rw [isKey] at unfilled ⊢
      rw [Settings.text?_fillFrom, Settings.text?_fillFrom, unfilled, same.lookup_key]
    · have neither (credential : Credential) : name ≠ credential.variableName := by
        cases credential
        · exact isKey
        · exact other
      rw [Environment.text?_congr (Settings.get?_fillFrom_of_ne _ _ neither),
        Environment.text?_congr (Settings.get?_fillFrom_of_ne _ _ neither), unfilled]
  · have shown : (first.environment.text? Credential.secret.variableName).isSome =
        (second.environment.text? Credential.secret.variableName).isSome := by
      rw [Bool.eq_iff_iff, Option.isSome_iff_ne_none, Option.isSome_iff_ne_none]
      exact not_congr (same.lookedUp .secret)
    rw [Settings.text?_fillFrom, Settings.text?_fillFrom, Option.isSome_or, Option.isSome_or,
      shown, (same.looked .secret).2]

end Secret

namespace Surroundings.LookAlike

variable {first second : Surroundings}

/-- Each credential is there in both, or in neither. -/
theorem given (alike : first.LookAlike second) (credential : Credential) :
    (first.environment.text? credential.variableName).isSome =
      (second.environment.text? credential.variableName).isSome := by
  cases credential with
  | key => rw [alike.texts _ (by decide)]
  | secret => exact alike.secret

/-- The configurations ask for the same certificates. -/
theorem certificatesOf (alike : first.LookAlike second) :
    Client.certificatesOf first.files first.shown =
      Client.certificatesOf second.files second.shown := by
  have bundle : first.shown.bundle = second.shown.bundle :=
    alike.texts Settings.bundleVariable (by decide)
  rw [Client.certificatesOf, Client.certificatesOf, bundle, alike.files]

/-- The services differ in the contents of the secret at most. -/
theorem services (alike : first.LookAlike second) :
    Session.SameButSecret (Service.start (.ofConfiguration first.shown) first.source)
      (Service.start (.ofConfiguration second.shown) second.source) where
  baseUrl := by
    have url : first.shown.apiUrl = second.shown.apiUrl := by
      rw [shown, shown, Environment.configured, Environment.configured,
        alike.texts Settings.urlVariable (by decide)]
    exact congrArg Settings.withSlash url
  key := congrArg Signer.nonempty (alike.texts Credential.key.variableName (by decide))
  secret := by
    change (Signer.nonempty first.shown.secret).isSome =
      (Signer.nonempty second.shown.secret).isSome
    rw [shown, shown, Environment.configured, Environment.configured, nonempty_text?,
      nonempty_text?]
    exact alike.secret
  source := alike.source

/-- Where the configuration is settled, the sessions go on alike. The certificates are the same,
so there is a client in both or in neither, and the calls show no more than whether there is a
secret. -/
theorem proceed_of_both (alike : first.LookAlike second) (exchanges others : Nat → Exchange)
    (both : (first.environment.text? Credential.key.variableName).isSome =
      (first.environment.text? Credential.secret.variableName).isSome)
    (gets : (Session.proceed first exchanges).GetsSame (Session.proceed second others)) :
    (Session.proceed first exchanges).masked "bfx-signature" =
      (Session.proceed second others).masked "bfx-signature" := by
  have configured : configurationOf first.environment = .ok first.shown :=
    configurationOf_of_both _ both
  rw [alike.given .key, alike.given .secret] at both
  have configuredToo : configurationOf second.environment = .ok second.shown :=
    configurationOf_of_both _ both
  rw [Session.proceed, Session.proceed, configured, configuredToo] at gets ⊢
  simp only [Client.ofConfiguration, alike.certificatesOf, alike.builds, bind, Except.bind]
    at gets ⊢
  cases had : Client.certificatesOf second.files second.shown with
  | error error => rfl
  | ok certificates =>
    simp only [had] at gets ⊢
    cases built : second.builds certificates with
    | false => rfl
    | true =>
      simp only [built] at gets ⊢
      exact Session.calls_masked Session.program alike.services exchanges others gets

/-- Where it is not, the sessions end alike, for the same credential is missing. -/
theorem proceed_of_one (alike : first.LookAlike second) (exchanges others : Nat → Exchange)
    (unlike : (first.environment.text? Credential.key.variableName).isSome ≠
      (first.environment.text? Credential.secret.variableName).isSome) :
    Session.proceed first exchanges = Session.proceed second others := by
  obtain ⟨credential, missing, present⟩ := exists_missing_of_not_both _ unlike
  have missingToo : second.environment.text? credential.variableName = none := by
    rw [← Option.not_isSome_iff_eq_none, ← alike.given, missing]
    simp
  have presentToo := present
  rw [alike.given] at presentToo
  rw [Session.proceed, Session.proceed, configurationOf_of_one _ missing present,
    configurationOf_of_one _ missingToo presentToo]
  rfl

/-- Two sessions are reported alike, as long as they get the same replies. -/
theorem proceed (alike : first.LookAlike second) (exchanges others : Nat → Exchange)
    (gets : (Session.proceed first exchanges).GetsSame (Session.proceed second others)) :
    (Session.proceed first exchanges).masked "bfx-signature" =
      (Session.proceed second others).masked "bfx-signature" := by
  by_cases both : (first.environment.text? Credential.key.variableName).isSome =
      (first.environment.text? Credential.secret.variableName).isSome
  · exact alike.proceed_of_both exchanges others both gets
  · rw [alike.proceed_of_one exchanges others both]

end Surroundings.LookAlike

/-- A credential is taken from the keychain: its variable holds no text, and its entry
does. -/
def IsTaken (environment : Environment) (keychain : Keychain) (credential : Credential) : Prop :=
  (∀ bytes, environment.get? credential.variableName = some bytes → ∀ text, ¬ Holds bytes text) ∧
    ∃ bytes text, keychain credential.entryName = .stored bytes ∧ Holds bytes text

/-- The credentials that are filled in are those that are taken from the keychain. -/
theorem mem_filledBy_iff (environment : Environment) (keychain : Keychain)
    (credential : Credential) :
    credential ∈ Settings.filledBy (environment.fillFrom keychain).2 ↔
      IsTaken environment keychain credential := by
  rw [Settings.mem_filledBy_fillFrom_iff, Environment.isAbsent_iff,
    text?_eq_none_iff_not_holds]
  refine and_congr_right fun _ => ?_
  constructor
  · rintro ⟨text, stored, filled⟩
    exact ⟨_, text, stored, rfl, filled⟩
  · rintro ⟨bytes, text, stored, rfl, filled⟩
    exact ⟨text, stored, filled⟩

/-- The events of used credentials name their variables. -/
theorem tells_credentials (credentials : List Credential) :
    List.Forall₂ TellsCredential credentials (credentials.map Event.credentialUsed) := by
  rw [List.forall₂_map_right_iff]
  refine List.forall₂_same.mpr fun credential _ => ⟨rfl, rfl, ?_⟩
  cases credential <;> decide

namespace Session

section Course

variable {surroundings : Surroundings} {exchanges : Nat → Exchange} {shown : List Event}
  {exchanged : List (Request × Option Reply)} {result : Except WalletError Unit}

/-- On no course more than two requests are posted. -/
theorem Course.length_le (course : Course surroundings exchanges shown exchanged result) :
    exchanged.length ≤ 2 := by
  cases course <;> simp

/-- On every course the replies come from the exchanges in their order. -/
theorem Course.replied (course : Course surroundings exchanges shown exchanged result)
    {place : Nat} {request : Request} {reply : Option Reply}
    (got : exchanged[place]? = some (request, reply)) : reply = exchanges place request := by
  have single {first : Request}
      (got : [(first, exchanges 0 first)][place]? = some (request, reply)) :
      reply = exchanges place request := by
    cases place with
    | zero =>
      cases got
      rfl
    | succ => cases got
  have double {first second : Request}
      (got : [(first, exchanges 0 first), (second, exchanges 1 second)][place]? =
        some (request, reply)) : reply = exchanges place request := by
    match place with
    | 0 | 1 =>
      cases got
      rfl
    | _ + 2 => cases got
  cases course with
  | unconfigured | untrusted | unbuilt | unsigned => cases got
  | withoutWallets => exact single got
  | withoutMovements | complete => exact double got

end Course

/-- The nonces of a session increase. -/
theorem proceed_nonces (surroundings : Surroundings) (exchanges : Nat → Exchange)
    (room : surroundings.source.HasRoom (2 ^ 64) 2) :
    ∃ nonces : List Nat,
      (proceed surroundings exchanges).sent.map Request.nonce? = nonces.map some ∧
        nonces.Pairwise (· < ·) := by
  rw [proceed]
  cases configurationOf surroundings.environment >>=
      Client.ofConfiguration surroundings.files surroundings.builds with
  | error error => exact ⟨[], rfl, .nil⟩
  | ok client =>
    obtain ⟨nonces, carried, increase, _⟩ := calls_nonces program
      (client.service surroundings.source) exchanges room
    exact ⟨nonces, carried, increase⟩

/-- Servers whose replies do not depend on the requests give the same replies to all
sessions. -/
theorem getsSame_of_fixed (replies : Nat → Option Reply) (first second : Surroundings) :
    (run first fun place _ => replies place).GetsSame
      (run second fun place _ => replies place) := by
  have fixed (surroundings : Surroundings) (place : Nat) (reply : Option Reply)
      (got : (run surroundings fun place _ => replies place).received[place]? = some reply) :
      reply = replies place := by
    rw [Report.received, List.getElem?_map, Option.map_eq_some_iff] at got
    obtain ⟨⟨request, _⟩, exchanged, rfl⟩ := got
    exact (proceed_course _ _).replied exchanged
  intro place reply other got gotToo
  rw [fixed first place reply got, fixed second place other gotToo]

end Session

/-- In all surroundings and with all exchanges a session keeps its discipline. It informs
first of the credentials that are taken from the keychain, in their order and by the names
of their variables, and then takes its course. It posts two requests at most, and with
increasing nonces, as far as words go. With another secret in the place of its own, and
as long as it gets the same replies, it shows the same events, comes to the same result, and
posts the same requests up to the signature. -/
theorem session_discipline (surroundings : Surroundings) (exchanges : Nat → Exchange) :
    let filled : Surroundings :=
      { surroundings with
        environment := (surroundings.environment.fillFrom surroundings.keychain).1 }
    let report := Session.run surroundings exchanges
    (∃ taken told shown,
      taken.Sublist Credential.all ∧
      (∀ credential, credential ∈ taken ↔
        IsTaken surroundings.environment surroundings.keychain credential) ∧
      List.Forall₂ TellsCredential taken told ∧
      informational report.events = told ++ shown ∧
      Session.Course filled exchanges shown report.exchanged report.result) ∧
    report.sent.length ≤ 2 ∧
    (surroundings.source.HasRoom (2 ^ 64) 2 →
      ∃ nonces : List Nat, report.sent.map Request.nonce? = nonces.map some ∧
        nonces.Pairwise (· < ·)) ∧
    ∀ other otherExchanges, surroundings.SameButSecret other →
      report.GetsSame (Session.run other otherExchanges) →
      report.masked "bfx-signature" =
        (Session.run other otherExchanges).masked "bfx-signature" := by
  intro filled report
  let taken := Settings.filledBy (surroundings.environment.fillFrom surroundings.keychain).2
  have course := Session.proceed_course filled exchanges
  refine ⟨⟨taken, taken.map Event.credentialUsed, _, ?_, mem_filledBy_iff _ _,
    tells_credentials taken, ?_, course⟩, ?_, Session.proceed_nonces filled exchanges, ?_⟩
  · have listed : taken = Credential.all.filter _ := Settings.filledBy_fillFrom _ _
    rw [listed]
    exact List.filter_sublist
  · rw [← Session.informational_fillEvents, ← Session.informational_append]
    rfl
  · rw [Report.sent, List.length_map]
    exact course.length_le
  · intro other otherExchanges same gets
    have events := same.fillEvents
    have proceeds := same.lookAlike.proceed exchanges otherExchanges gets
    rw [Surroundings.filled, Surroundings.filled] at proceeds
    simp only [report, Session.run, Report.masked_behind, proceeds, events]

/-- Two sessions with the key in the environment and a short and a long secret in the
keychain, of which the first reply refuses the wallets. -/
theorem keychain_secret_stays_hidden :
    let surroundings (secret : String) : Surroundings :=
      { environment := Environment.empty.set "BFX_API_KEY" "key".toUTF8
        keychain := Keychain.empty.set "bitfinex_api_secret" (.stored secret.toUTF8)
        files := fun _ => .error ⟨"No such file or directory (os error 2)"⟩
        builds := fun _ => true
        source := ⟨.epoch, 41⟩ }
    let exchanges : Nat → Exchange := fun _ _ => some ⟨500, ""⟩
    (Session.run (surroundings "s") exchanges).masked "bfx-signature" =
      (Session.run (surroundings "another secret") exchanges).masked "bfx-signature" := by
  intro surroundings exchanges
  have given (secret : String) (filled : secret ≠ "") :
      ((surroundings secret).keychain.lookup .secret).value?.isSome = true :=
    Option.isSome_of_eq_some (Settings.value?_lookup_eq_some_iff.mpr ⟨rfl, filled⟩)
  have same : (surroundings "s").SameButSecret (surroundings "another secret") := by
    refine ⟨rfl, rfl, rfl, fun _ _ => rfl, .inl rfl, ?_,
      .inr ⟨given "s" (by decide), given "another secret" (by decide)⟩⟩
    intro name other
    change name ≠ "bitfinex_api_secret" at other
    simp [surroundings, Keychain.set, other]
  have gets := Session.getsSame_of_fixed (fun _ => some ⟨500, ""⟩) (surroundings "s")
    (surroundings "another secret")
  exact (session_discipline (surroundings "s") exchanges).2.2.2 _ _ same gets

end ExchangeWallet
