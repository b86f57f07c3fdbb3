import ExchangeWallet.Proofs.Settings.Reading
import ExchangeWallet.Surroundings
/-!
# What filling in leaves

Filling in opens the entry of a credential only if its variable reads as absent, and changes
the variable only if the entry then yields a text. It reports exactly the credentials whose
variables it has changed. So it settles the environment: filled in again from the same
keychain, nothing is found that was not found before, and nothing changes.
-/
namespace ExchangeWallet

open Settings (Credential Environment Keychain)

namespace Settings

/-- What filling in from a keychain has opened and what it reports, with the environment in
front of it and the one behind it. -/
structure FillsIn (keychain : Keychain) (before : Environment) (opened filled : List Credential)
    (behind : Environment) : Prop where
  /-- The key comes first, and no entry is opened twice. -/
  opened_order : opened.Sublist [.key, .secret]
  mem_opened_iff : ∀ credential, credential ∈ opened ↔ before.IsAbsent credential.variableName
  filled_order : filled.Sublist opened
  /-- Whether a credential is filled in does not depend on the other one. -/
  mem_filled_iff : ∀ credential, credential ∈ filled ↔
    before.IsAbsent credential.variableName ∧ ∃ text, keychain.Yields credential text
  /-- The variables that change are those of the credentials that are reported. -/
  changed_iff : ∀ name, behind.get? name ≠ before.get? name ↔
    ∃ credential ∈ filled, name = credential.variableName
  /-- A variable is changed to what the entry yields. -/
  changed_to : ∀ credential ∈ filled, ∀ text, keychain.Yields credential text →
    behind.get? credential.variableName = some text.toUTF8

section Steps

variable (keychain : Keychain)

/-- A step leaves the environment if its variable shows something, or its entry gives
nothing. -/
theorem fillOne_of_kept {environment : Environment} {credential : Credential}
    (kept : environment.text? credential.variableName = none →
      (keychain.lookup credential).value? = none) :
    fillOne keychain environment credential = environment := by
  cases shown : environment.text? credential.variableName with
  | some text => simp only [fillOne, shown]
  | none => simp only [fillOne, shown, kept shown]

/-- A variable is left by filling in unless it belongs to a credential that it does not show
and that the keychain gives. No step changes what makes the later ones leave it. -/
theorem get?_fillIn_of_kept (credentials : List Credential) (environment : Environment)
    {name : String}
    (kept : ∀ credential ∈ credentials, name = credential.variableName →
      environment.text? name = none → (keychain.lookup credential).value? = none) :
    (fillIn keychain credentials environment).1.get? name = environment.get? name := by
  induction credentials generalizing environment with
  | nil => rfl
  | cons credential rest inductionHypothesis =>
    have left : (fillOne keychain environment credential).get? name = environment.get? name := by
      by_cases own : name = credential.variableName
      · rw [fillOne_of_kept keychain]
        intro shown
        exact kept credential List.mem_cons_self own (own ▸ shown)
      · exact get?_fillOne_of_ne keychain environment credential own
    rw [fillIn_cons, inductionHypothesis, left]
    intro later member own shown
    rw [Environment.text?_congr left] at shown
    exact kept later (List.mem_cons_of_mem _ member) own shown

end Steps

variable (environment : Environment) (keychain : Keychain)

/-- A variable that is changed belongs to a credential, which it did not show and which the
keychain gives. -/
theorem exists_filled_of_changed {name : String}
    (changed : (environment.fillFrom keychain).1.get? name ≠ environment.get? name) :
    ∃ credential : Credential, name = credential.variableName ∧
      environment.text? name = none ∧ (keychain.lookup credential).value? ≠ none := by
  by_contra none
  refine changed (get?_fillIn_of_kept keychain Credential.all environment ?_)
  intro credential _ own shown
  by_contra found
  exact none ⟨credential, own, shown, found⟩

/-- A credential is filled in exactly if its variable reads as absent and its entry yields a
text. -/
theorem mem_filledBy_fillFrom_iff (credential : Credential) :
    credential ∈ filledBy (environment.fillFrom keychain).2 ↔
      environment.IsAbsent credential.variableName ∧ ∃ text, keychain.Yields credential text := by
  rw [filledBy_fillFrom, List.mem_filter, decide_eq_true_eq, and_iff_right credential.mem_all,
    Environment.isAbsent_iff, Option.isSome_iff_exists]
  simp only [Keychain.yields_iff]

/-- The variable of a credential that is filled in holds what its entry yields. -/
theorem get?_fillFrom_of_yields {credential : Credential} {text : String}
    (absent : environment.IsAbsent credential.variableName)
    (yields : keychain.Yields credential text) :
    (environment.fillFrom keychain).1.get? credential.variableName = some text.toUTF8 := by
  have shown : (environment.fillFrom keychain).1.text? credential.variableName = some text := by
    rw [text?_fillFrom, Environment.isAbsent_iff.mp absent, Option.none_or]
    exact Keychain.yields_iff.mp yields
  exact (Environment.text?_eq_some_iff.mp shown).1

/-- Filling in does what it reports. -/
theorem fillFrom_fillsIn :
    FillsIn keychain environment ((environment.fillFrom keychain).2.map Attempt.credential)
      (filledBy (environment.fillFrom keychain).2) (environment.fillFrom keychain).1 where
  opened_order := by
    rw [attempts_fillFrom, List.map_map]
    simp [Function.comp_def, Credential.all]
  mem_opened_iff := by
    intro credential
    rw [attempts_fillFrom, List.map_map, Environment.isAbsent_iff]
    simp [Function.comp_def, credential.mem_all]
  filled_order := (List.filter_sublist).map Attempt.credential
  mem_filled_iff := mem_filledBy_fillFrom_iff environment keychain
  changed_iff := by
    intro name
    constructor
    · intro changed
      obtain ⟨credential, rfl, shown, found⟩ :=
        exists_filled_of_changed environment keychain changed
      obtain ⟨text, given⟩ := Option.ne_none_iff_exists'.mp found
      refine ⟨credential, ?_, rfl⟩
      exact (mem_filledBy_fillFrom_iff environment keychain credential).mpr
        ⟨Environment.isAbsent_iff.mpr shown, text, Keychain.yields_iff.mpr given⟩
    · rintro ⟨credential, member, rfl⟩ same
      obtain ⟨absent, text, yields⟩ :=
        (mem_filledBy_fillFrom_iff environment keychain credential).mp member
      rw [get?_fillFrom_of_yields environment keychain absent yields] at same
      -- The bytes of a text that is not empty would not have read as absent.
      have shown := Environment.text?_eq_some_iff.mpr ⟨same.symm, yields.filled⟩
      rw [Environment.isAbsent_iff.mp absent] at shown
      cases shown
  changed_to := by
    intro credential member text yields
    exact get?_fillFrom_of_yields environment keychain
      ((mem_filledBy_fillFrom_iff environment keychain credential).mp member).1 yields

/-- Once filled in, a variable that shows nothing belongs to no credential that the keychain
gives. -/
theorem value?_of_text?_fillFrom {credential : Credential}
    (shown : (environment.fillFrom keychain).1.text? credential.variableName = none) :
    (keychain.lookup credential).value? = none := by
  rw [text?_fillFrom, Option.or_eq_none_iff] at shown
  exact shown.2

/-- Filling in again from the same keychain changes nothing. -/
theorem fillFrom_fillFrom :
    ((environment.fillFrom keychain).1.fillFrom keychain).1 =
      (environment.fillFrom keychain).1 := by
  funext name
  refine get?_fillIn_of_kept keychain Credential.all _ ?_
  rintro credential _ rfl shown
  exact value?_of_text?_fillFrom environment keychain shown

/-- Filling in again from the same keychain reports nothing. -/
theorem filledBy_fillFrom_fillFrom :
    filledBy ((environment.fillFrom keychain).1.fillFrom keychain).2 = [] := by
  rw [filledBy_fillFrom, List.filter_eq_nil_iff]
  intro credential _ found
  obtain ⟨shown, given⟩ := of_decide_eq_true found
  rw [value?_of_text?_fillFrom environment keychain shown] at given
  cases given

end Settings

/-- In all surroundings, filling in opens the entries of the credentials whose variables read
as absent, in order, and reports exactly those whose variables it has changed, each to what
its entry yields. A second time, it opens the entries of the credentials that are still
absent, reports none, and leaves everything as it is. -/
theorem filling_in_settles_environment (surroundings : Surroundings) :
    ∃ opened filled openedAgain behind,
      let reached : Surroundings := { surroundings with environment := behind }
      surroundings.step .fillIn = (⟨.filled filled, opened⟩, reached) ∧
      Settings.FillsIn surroundings.keychain surroundings.environment opened filled behind ∧
      reached.step .fillIn = (⟨.filled [], openedAgain⟩, reached) ∧
      Settings.FillsIn surroundings.keychain behind openedAgain [] behind := by
  let environment := surroundings.environment
  let keychain := surroundings.keychain
  let behind := (environment.fillFrom keychain).1
  have unchanged : (behind.fillFrom keychain).1 = behind :=
    Settings.fillFrom_fillFrom environment keychain
  have unreported : Settings.filledBy (behind.fillFrom keychain).2 = [] :=
    Settings.filledBy_fillFrom_fillFrom environment keychain
  have again := Settings.fillFrom_fillsIn behind keychain
  rw [unchanged, unreported] at again
  refine ⟨_, _, _, behind, rfl, Settings.fillFrom_fillsIn environment keychain, ?_, again⟩
  simp only [Surroundings.step]
  rw [unchanged, unreported]

end ExchangeWallet
