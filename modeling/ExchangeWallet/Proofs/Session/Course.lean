import ExchangeWallet.Proofs.Session.Answers
import ExchangeWallet.Proofs.Settings.Clients
import ExchangeWallet.Session
/-!
# The course of a session

A session goes as far as its settings, its credentials and the two replies let it, and
ends with the first error on the way. How far it goes settles what it tells, what it
sends and what it comes to. Of what it tells only the events that inform count here; they
are the credentials taken from the keychain, the wallets and the movements.

A request is posted, which means handed to the HTTP library, at most once. How the library
goes about it, and which redirects it follows until it has a reply or gives up, is up to the
exchange. No exchange is left out.
-/
namespace ExchangeWallet

open Http (Exchange)
open Json (Value)
open Log (Event)
open Settings (Configuration Credential Environment Keychain)
open Signing (NonceSource Request Signer)

/-- The events that are there to inform. -/
def informational (events : List Event) : List Event :=
  events.filter fun event => event.level = .info

/-- An event informs with this message and these details. -/
structure Informs (message : String) (details : List (String × String)) (event : Event) :
    Prop where
  level : event.level = .info
  message : event.message = message
  details : event.details = details

/-- An event tells that a credential of the keychain is used. It names the variable only. -/
def TellsCredential (credential : Credential) : Event → Prop :=
  Informs "using credential from keychain"
    [("variable", "\"" ++ credential.variableName ++ "\"")]

/-- An event tells of a wallet. -/
def TellsWallet (shown : Record.Wallet) : Event → Prop :=
  Informs "wallet"
    [("wallet_type", shown.walletType), ("currency", shown.currency),
      ("balance", toString shown.balance), ("available", toString shown.balanceAvailable)]

/-- An event tells of a movement. -/
def TellsMovement (shown : Record.Movement) : Event → Prop :=
  Informs "movement"
    [("id", String.ofList (Numeral.integerText shown.id)), ("currency", shown.currency),
      ("status", shown.status), ("amount", toString shown.amount)]

/-- A request asks for an endpoint with a body, at the base URL of a configuration. It is signed
by the credentials of the configuration. -/
structure Asks (configuration : Configuration) (endpoint body : String) (request : Request) :
    Prop where
  path : request.path = "v2/auth/r/" ++ endpoint
  body : request.body = body
  signed : ∃ key secret value nonce, configuration.key = some key ∧
    configuration.secret = some secret ∧
    request.IsSigned configuration.apiUrl key secret .read endpoint value nonce

namespace Session

/-- What a session asks for second. -/
def latestMovements : Operation :=
  .movements none none (some movementCount)

/-- The settings are in order: a configuration is settled, the certificates of its bundle can be
had if it names one, and the HTTP library can be set up. -/
structure Ready (surroundings : Surroundings) (configuration : Configuration) : Prop where
  settled : configuration.IsSettledBy surroundings.environment
  built : ∃ certificates,
    Client.certificatesOf surroundings.files configuration = .ok certificates ∧
      surroundings.builds certificates = true

/-- How far a session goes once the credentials are filled in: the events that inform from
there on, the requests that are posted with what comes of them, and the result. The stages
stand in their order, and each asks for those before it to be passed. -/
inductive Course (surroundings : Surroundings) (exchanges : Nat → Exchange) :
    List Event → List (Request × Option Reply) → Except WalletError Unit → Prop
  /-- One credential is there without the other. -/
  | unconfigured {credential : Credential}
      (missing : surroundings.environment.IsAbsent credential.variableName)
      (present : ¬ surroundings.environment.IsAbsent credential.other.variableName) :
      Course surroundings exchanges [] [] (.error (.credentialMissing credential))
  /-- The bundle cannot be used. -/
  | untrusted {configuration : Configuration} {path : String} {fault : Trust.Fault}
      (settled : configuration.IsSettledBy surroundings.environment)
      (named : configuration.bundle = some path)
      (unusable : Trust.certificates surroundings.files path = .error fault) :
      Course surroundings exchanges [] [] (.error (.trust fault))
  /-- The HTTP library cannot be set up. -/
  | unbuilt {configuration : Configuration} {certificates : Option (List (List UInt8))}
      (settled : configuration.IsSettledBy surroundings.environment)
      (had : Client.certificatesOf surroundings.files configuration = .ok certificates)
      (unbuilt : surroundings.builds certificates = false) :
      Course surroundings exchanges [] [] (.error .transport)
  /-- There are no credentials to sign with. -/
  | unsigned {configuration : Configuration} (ready : Ready surroundings configuration)
      (noKey : configuration.key = none) (noSecret : configuration.secret = none) :
      Course surroundings exchanges [] [] (.error .unsigned)
  /-- The question for the wallets fails by the reply to it, or by having none. -/
  | withoutWallets {configuration : Configuration} {error : WalletError} {first : Request}
      (ready : Ready surroundings configuration)
      (asked : Asks configuration "wallets" "\x7b\x7d" first)
      (gives : Gives .walletSnapshot Record.Wallet.ofValue (exchanges 0 first) (.error error)) :
      Course surroundings exchanges [] [(first, exchanges 0 first)] (.error error)
  /-- The wallets are shown, and the question for the movements fails. -/
  | withoutMovements {configuration : Configuration} {error : WalletError}
      {first second : Request} {wallets : List Record.Wallet} {shown : List Event}
      (ready : Ready surroundings configuration)
      (asked : Asks configuration "wallets" "\x7b\x7d" first)
      (gives : Gives .walletSnapshot Record.Wallet.ofValue (exchanges 0 first) (.ok wallets))
      (told : List.Forall₂ TellsWallet wallets shown)
      (askedNext : Asks configuration "movements/hist" "\x7b\"limit\":25\x7d" second)
      (givesNext : Gives .movements Record.Movement.ofValue (exchanges 1 second) (.error error)) :
      Course surroundings exchanges shown
        [(first, exchanges 0 first), (second, exchanges 1 second)] (.error error)
  /-- The wallets and the movements are shown. -/
  | complete {configuration : Configuration} {first second : Request}
      {wallets : List Record.Wallet} {movements : List Record.Movement}
      {shown shownNext : List Event} (ready : Ready surroundings configuration)
      (asked : Asks configuration "wallets" "\x7b\x7d" first)
      (gives : Gives .walletSnapshot Record.Wallet.ofValue (exchanges 0 first) (.ok wallets))
      (told : List.Forall₂ TellsWallet wallets shown)
      (askedNext : Asks configuration "movements/hist" "\x7b\"limit\":25\x7d" second)
      (givesNext : Gives .movements Record.Movement.ofValue (exchanges 1 second) (.ok movements))
      (toldNext : List.Forall₂ TellsMovement movements shownNext) :
      Course surroundings exchanges (shown ++ shownNext)
        [(first, exchanges 0 first), (second, exchanges 1 second)] (.ok ())

section Calls

variable (service : Service) (exchanges : Nat → Exchange) (sending : Event)
  {operation : Operation} {draft : Draft} (rest : List (Event × Operation))

/-- Calls end with the first one that cannot be drafted. -/
theorem calls_of_refused {error : WalletError} (refused : operation.draft = .error error) :
    calls service exchanges ((sending, operation) :: rest) = Report.ofResult (.error error) := by
  rw [calls, service.call_of_refused _ refused]
  rfl

/-- Calls end with the first one that cannot be signed. -/
theorem calls_of_incomplete (drafted : operation.draft = .ok draft)
    (incomplete : service.signer.isComplete = false) :
    calls service exchanges ((sending, operation) :: rest) =
      Report.ofResult (.error .unsigned) := by
  rw [calls, service.call_of_incomplete _ drafted incomplete]
  rfl

variable {key secret : String}

/-- Calls end with the first one that fails, which is reported with its request. -/
theorem calls_of_failed (drafted : operation.draft = .ok draft)
    (hasKey : service.signer.key = some key) (hasSecret : service.signer.secret = some secret)
    {error : WalletError}
    (failed : Http.executor (exchanges 0) (service.composed key secret draft) >>=
      operation.decode = .error error) :
    let request := service.composed key secret draft
    calls service exchanges ((sending, operation) :: rest) =
      (Report.ofResult (.error error)).behind
        (exchangeEvents sending (request, exchanges 0 request))
        [(request, exchanges 0 request)] := by
  rw [calls, service.call_of_complete _ drafted hasKey hasSecret, failed]
  simp only [List.map_singleton, List.flatMap_singleton]

/-- Behind a call that is answered the calls go on, with the exchanges and the nonces that it
leaves. It is reported with its request and its answer. -/
theorem calls_of_answered (drafted : operation.draft = .ok draft)
    (hasKey : service.signer.key = some key) (hasSecret : service.signer.secret = some secret)
    {answer : Answer}
    (answered : Http.executor (exchanges 0) (service.composed key secret draft) >>=
      operation.decode = .ok answer) :
    let request := service.composed key secret draft
    calls service exchanges ((sending, operation) :: rest) =
      (calls { service with source := service.source.issue.2, built := service.built + 1 }
        (fun later => exchanges (later + 1)) rest).behind
          (exchangeEvents sending (request, exchanges 0 request) ++ answerEvents answer)
          [(request, exchanges 0 request)] := by
  rw [calls, service.call_of_complete _ drafted hasKey hasSecret, answered]
  simp only [List.map_singleton, List.flatMap_singleton]

end Calls

section Informational

/-- What informs in two parts informs in the whole. -/
theorem informational_append (first second : List Event) :
    informational (first ++ second) = informational first ++ informational second :=
  List.filter_append ..

/-- Exchanges do not inform. -/
theorem informational_exchangeEvents (sending : Event) (silent : sending.level = .debug)
    (exchanged : Request × Option Reply) :
    informational (exchangeEvents sending exchanged) = [] := by
  have arrived (path : String) (status : Nat) :
      (Event.received path status).level = .debug := rfl
  obtain ⟨request, reply⟩ := exchanged
  cases reply with
  | none => simp [informational, exchangeEvents, silent]
  | some reply => simp [informational, exchangeEvents, silent, arrived]

/-- Answers inform with all that they show. -/
theorem informational_answerEvents (answer : Answer) :
    informational (answerEvents answer) = answerEvents answer := by
  rw [informational, List.filter_eq_self]
  intro event member
  cases answer with
  | snapshot snapshot =>
    obtain ⟨wallet, _, rfl⟩ := List.mem_map.mp member
    rfl
  | history movements =>
    obtain ⟨movement, _, rfl⟩ := List.mem_map.mp member
    rfl
  | notification notification => cases member

/-- Filling in informs of the credentials that are used, and of nothing else. -/
theorem informational_fillEvents (attempts : List Settings.Attempt) :
    informational (fillEvents attempts) =
      (Settings.filledBy attempts).map Event.credentialUsed := by
  have attempted (attempt : Settings.Attempt) : informational (attemptEvents attempt) = [] := by
    unfold attemptEvents
    split
    · rfl
    · rfl
    · split <;> rfl
  have silent : informational (attempts.flatMap attemptEvents) = [] := by
    induction attempts with
    | nil => rfl
    | cons attempt rest inductionHypothesis =>
      rw [List.flatMap_cons, informational_append, attempted, inductionHypothesis,
        List.nil_append]
  rw [fillEvents, informational_append, silent, List.nil_append, informational,
    List.filter_eq_self]
  intro event member
  obtain ⟨credential, _, rfl⟩ := List.mem_map.mp member
  rfl

end Informational

section Telling

/-- The events of wallets tell of them. -/
theorem tells_wallets (wallets : List Record.Wallet) :
    List.Forall₂ TellsWallet wallets (answerEvents (.snapshot ⟨wallets⟩)) := by
  rw [answerEvents, List.forall₂_map_right_iff]
  exact List.forall₂_same.mpr fun wallet _ => ⟨rfl, rfl, rfl⟩

/-- The events of movements tell of them. -/
theorem tells_movements (movements : List Record.Movement) :
    List.Forall₂ TellsMovement movements (answerEvents (.history movements)) := by
  rw [answerEvents, List.forall₂_map_right_iff]
  exact List.forall₂_same.mpr fun movement _ => ⟨rfl, rfl, rfl⟩

end Telling

/-- The question for the wallets, before it is signed. -/
theorem draft_wallets : Operation.wallets.draft = .ok ⟨.read, "wallets", .object []⟩ :=
  rfl

/-- The question for the movements, before it is signed. -/
theorem draft_latestMovements :
    latestMovements.draft =
      .ok ⟨.read, "movements/hist", .object latestMovements.bodyFields⟩ := by
  apply Operation.draft_of_isWithinLimit
  change movementCount.toNat ≤ maxMovements
  decide

section Course

variable {surroundings : Surroundings} {configuration : Configuration} {key secret : String}

/-- A service whose signer has been made of a configuration asks in its name. -/
theorem asks_of_composed (service : Service) (endpoint : String)
    (base : service.signer.baseUrl = configuration.apiUrl) (hasKey : configuration.key = some key)
    (hasSecret : configuration.secret = some secret) {body : String} {value : Value}
    (written : value.compact = body) :
    Asks configuration endpoint body (service.composed key secret ⟨.read, endpoint, value⟩) where
  path := rfl
  body := written
  signed := by
    rw [Service.composed, base]
    exact ⟨key, secret, value, _, hasKey, hasSecret, Signing.compose_isSigned ..⟩

/-- With settings in order and credentials, the calls take their course. The second
question is asked on what the first one leaves, and only if that was answered. -/
theorem calls_course {service : Service} (ready : Ready surroundings configuration)
    (base : service.signer.baseUrl = configuration.apiUrl)
    (keys : service.signer.key = configuration.key)
    (secrets : service.signer.secret = configuration.secret)
    (hasKey : configuration.key = some key) (hasSecret : configuration.secret = some secret)
    (exchanges : Nat → Exchange) :
    let report := calls service exchanges program
    Course surroundings exchanges (informational report.events) report.exchanged
      report.result := by
  intro report
  let next : Service :=
    { service with source := service.source.issue.2, built := service.built + 1 }
  have isKey := keys.trans hasKey
  have isSecret := secrets.trans hasSecret
  have body : (Value.object []).compact = "\x7b\x7d" := by decide
  have bodyNext : (Value.object latestMovements.bodyFields).compact =
      "\x7b\"limit\":25\x7d" := by decide
  have asked := asks_of_composed service "wallets" base hasKey hasSecret body
  have askedNext := asks_of_composed next "movements/hist" base hasKey hasSecret bodyNext
  have silent := informational_exchangeEvents .sendingWallets rfl
  have silentNext := informational_exchangeEvents
    (.sendingMovements none none (some movementCount)) rfl
  obtain ⟨result, gives, answered⟩ := exists_gives wallets_decode (exchanges 0)
    (service.composed key secret ⟨.read, "wallets", .object []⟩)
  cases result with
  | error error =>
    have ends := calls_of_failed service exchanges .sendingWallets (program.drop 1) draft_wallets
      isKey isSecret answered
    have same : report = _ := ends
    rw [same]
    simp only [Report.behind, Report.ofResult, List.append_nil, silent]
    exact .withoutWallets ready asked gives
  | ok wallets =>
    have goesOn := calls_of_answered service exchanges .sendingWallets (program.drop 1)
      draft_wallets isKey isSecret answered
    have same : report = _ := goesOn
    obtain ⟨resultNext, givesNext, answeredNext⟩ :=
      exists_gives (movements_decode none none (some movementCount)) (exchanges 1)
        (next.composed key secret
          ⟨.read, "movements/hist", .object latestMovements.bodyFields⟩)
    cases resultNext with
    | error error =>
      have ends := calls_of_failed next (fun later => exchanges (later + 1))
        (.sendingMovements none none (some movementCount)) [] draft_latestMovements isKey
        isSecret answeredNext
      have stops : report = _ := same.trans (congrArg (Report.behind · _ _) ends)
      rw [stops]
      simp only [Report.behind, Report.ofResult, informational_append, silent, silentNext,
        informational_answerEvents, List.nil_append, List.append_nil]
      exact .withoutMovements ready asked gives (tells_wallets wallets) askedNext givesNext
    | ok movements =>
      have ends := calls_of_answered next (fun later => exchanges (later + 1))
        (.sendingMovements none none (some movementCount)) [] draft_latestMovements isKey
        isSecret answeredNext
      have stops : report = _ := same.trans (congrArg (Report.behind · _ _) ends)
      rw [stops]
      simp only [Report.behind, calls, Report.ofResult, informational_append, silent, silentNext,
        informational_answerEvents, List.nil_append, List.append_nil]
      exact .complete ready asked gives (tells_wallets wallets) askedNext givesNext
        (tells_movements movements)

end Course

/-- Behind filling in, a session takes its course. The settings are looked at first; then
the calls go on as long as they are answered. -/
theorem proceed_course (surroundings : Surroundings) (exchanges : Nat → Exchange) :
    let report := proceed surroundings exchanges
    Course surroundings exchanges (informational report.events) report.exchanged
      report.result := by
  intro report
  cases configured : configurationOf surroundings.environment with
  | error error =>
    obtain ⟨credential, missing, present, rfl⟩ := exists_missing_of_error configured
    have same : report = Report.ofResult (.error (.credentialMissing credential)) := by
      simp only [report, proceed, configured]
      rfl
    rw [same]
    exact .unconfigured missing present
  | ok configuration =>
    have settled := configurationOf_eq_ok_iff_isSettledBy.mp configured
    cases made : Client.ofConfiguration surroundings.files surroundings.builds configuration with
    | error error =>
      have same : report = Report.ofResult (.error error) := by
        simp only [report, proceed, configured, made, bind, Except.bind]
      rw [same]
      rcases unusable_or_unbuilt_of_error made with
        ⟨path, fault, named, unusable, rfl⟩ | ⟨certificates, had, unbuilt, rfl⟩
      · exact .untrusted settled named unusable
      · exact .unbuilt settled had unbuilt
    | ok client =>
      obtain ⟨certificates, had, built, rfl⟩ := ofConfiguration_eq_ok_iff.mp made
      have ready : Ready surroundings configuration := ⟨settled, certificates, had, built⟩
      let service := Service.start (Signer.ofConfiguration configuration) surroundings.source
      have same : report = calls service exchanges program := by
        simp only [report, proceed, configured, made, bind, Except.bind]
        rfl
      obtain ⟨keys, secrets, both⟩ := signer_credentials _ configured
      rw [same]
      cases hasKey : configuration.key with
      | none =>
        have noSecret : configuration.secret = none := by simpa [hasKey] using both.symm
        have incomplete : service.signer.isComplete = false :=
          Signer.isComplete_eq_false_iff.mpr (.inl (keys.trans hasKey))
        rw [program, calls_of_incomplete service exchanges _ _ draft_wallets incomplete]
        exact .unsigned ready hasKey noSecret
      | some key =>
        have present : configuration.secret.isSome := by
          rw [← both, hasKey]
          rfl
        obtain ⟨secret, hasSecret⟩ := Option.isSome_iff_exists.mp present
        exact calls_course ready (baseUrl_ofConfiguration settled) keys secrets hasKey hasSecret
          exchanges

end Session

end ExchangeWallet
