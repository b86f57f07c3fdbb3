import Mathlib
import ExchangeWallet.Settings.Keychain
/-!
# Filling in credentials

A variable shows a text exactly if it holds the bytes of the text and the text is not empty,
and an entry of the keychain gives one under the same condition. Filling in goes through the
credentials one at a time. Each step touches the variable of its credential alone, and leaves
it with the text that it had, or else with the one in the keychain.
-/
namespace ExchangeWallet

/-- Bytes spell a text exactly if they are its bytes. -/
theorem Text.ofBytes?_eq_some_iff {bytes : ByteArray} {text : String} :
    ofBytes? bytes = some text ↔ bytes = text.toUTF8 := by
  unfold ofBytes? String.fromUTF8?
  constructor
  · intro spelled
    split at spelled
    · cases spelled
      rfl
    · cases spelled
  · rintro rfl
    exact dif_pos text.isValidUTF8

namespace Settings

/-- A text that is not empty passes. -/
theorem filter_ne_empty_eq_some_iff {shown : Option String} {text : String} :
    (shown.filter fun text => text ≠ "") = some text ↔ shown = some text ∧ text ≠ "" := by
  rw [Option.filter_eq_some_iff, decide_eq_true_eq]

namespace Environment

variable {environment : Environment} {name : String} {text : String}

/-- A variable shows a text exactly if it holds its bytes and the text is not empty. -/
theorem text?_eq_some_iff :
    environment.text? name = some text ↔
      environment.get? name = some text.toUTF8 ∧ text ≠ "" := by
  rw [text?, filter_ne_empty_eq_some_iff, Option.bind_eq_some_iff]
  simp only [Text.ofBytes?_eq_some_iff, exists_eq_right]

/-- A variable shows nothing exactly if it holds the bytes of no text that is not empty. -/
theorem text?_eq_none_iff :
    environment.text? name = none ↔
      ∀ text, text ≠ "" → environment.get? name ≠ some text.toUTF8 := by
  rw [Option.eq_none_iff_forall_ne_some]
  refine forall_congr' fun text => ?_
  rw [Ne, text?_eq_some_iff]
  tauto

/-- A variable shows the text it was set to. -/
theorem text?_set_self (environment : Environment) (name : String) (filled : text ≠ "") :
    (environment.set name text.toUTF8).text? name = some text :=
  text?_eq_some_iff.mpr ⟨environment.get?_set_self name text.toUTF8, filled⟩

/-- What a variable shows depends on its bytes alone. -/
theorem text?_congr {other : Environment} (same : environment.get? name = other.get? name) :
    environment.text? name = other.text? name := by
  rw [text?, text?, same]

end Environment

/-- An entry gives a text exactly if it stores its bytes and the text is not empty. -/
theorem value?_lookup_eq_some_iff {keychain : Keychain} {credential : Credential} {text : String} :
    (keychain.lookup credential).value? = some text ↔
      keychain credential.entryName = .stored text.toUTF8 ∧ text ≠ "" := by
  rw [Lookup.value?, filter_ne_empty_eq_some_iff, Keychain.lookup]
  refine and_congr_left fun _ => ?_
  cases keychain credential.entryName with
  | missing => simp [Entry.lookup, Lookup.text?]
  | stored value =>
    rw [Entry.lookup, Entry.stored.injEq, ← Text.ofBytes?_eq_some_iff]
    cases Text.ofBytes? value <;> simp [Lookup.text?]
  | unreadable => simp [Entry.lookup, Lookup.text?]
  | unopenable => simp [Entry.lookup, Lookup.text?]

/-- There are no other credentials. -/
theorem Credential.mem_all (credential : Credential) : credential ∈ all := by
  cases credential <;> decide

/-- Credentials have variables of their own. -/
theorem Credential.variableName_injective {first second : Credential}
    (same : first.variableName = second.variableName) : first = second := by
  cases first <;> cases second <;> first | rfl | exact absurd same (by decide)

/-- The environment once a credential has been filled in, if its variable shows nothing and
the keychain gives it. -/
def fillOne (keychain : Keychain) (environment : Environment) (credential : Credential) :
    Environment :=
  match environment.text? credential.variableName, (keychain.lookup credential).value? with
  | none, some value => environment.set credential.variableName value.toUTF8
  | _, _ => environment

section Step

variable (keychain : Keychain) (environment : Environment) (credential : Credential)

/-- Behind its step a variable shows what it did, or else what the keychain gives. -/
theorem text?_fillOne_self :
    (fillOne keychain environment credential).text? credential.variableName =
      (environment.text? credential.variableName).or (keychain.lookup credential).value? := by
  cases shown : environment.text? credential.variableName with
  | some text => simp [fillOne, shown]
  | none =>
    cases found : (keychain.lookup credential).value? with
    | none => simp [fillOne, shown, found]
    | some value =>
      have filled := (value?_lookup_eq_some_iff.mp found).2
      simp only [fillOne, shown, found]
      exact Environment.text?_set_self environment _ filled

/-- A step leaves every other variable. -/
theorem get?_fillOne_of_ne {name : String} (other : name ≠ credential.variableName) :
    (fillOne keychain environment credential).get? name = environment.get? name := by
  unfold fillOne
  split
  · exact Environment.get?_set_of_ne _ _ other
  · rfl

end Step

section Run

variable (keychain : Keychain)

/-- Filling in looks a credential up if its variable shows nothing, takes its step, and goes
on with the rest. -/
theorem fillIn_cons (credential : Credential) (rest : List Credential)
    (environment : Environment) :
    let behind := fillIn keychain rest (fillOne keychain environment credential)
    fillIn keychain (credential :: rest) environment =
      (behind.1, (if environment.text? credential.variableName = none then
        [⟨credential, keychain.lookup credential⟩] else []) ++ behind.2) := by
  intro behind
  rw [fillIn]
  cases shown : environment.text? credential.variableName with
  | some text =>
    have same : fillOne keychain environment credential = environment := by
      simp only [fillOne, shown]
    simp [behind, same]
  | none =>
    cases found : (keychain.lookup credential).value? with
    | none =>
      have same : fillOne keychain environment credential = environment := by
        simp only [fillOne, shown, found]
      simp [behind, same, found]
    | some value =>
      have changed : fillOne keychain environment credential =
          environment.set credential.variableName value.toUTF8 := by
        simp only [fillOne, shown, found]
      simp [behind, changed, found]

/-- Filling in leaves every variable that belongs to none of the credentials. -/
theorem get?_fillIn_of_ne (credentials : List Credential) (environment : Environment)
    {name : String} (other : ∀ credential ∈ credentials, name ≠ credential.variableName) :
    (fillIn keychain credentials environment).1.get? name = environment.get? name := by
  induction credentials generalizing environment with
  | nil => rfl
  | cons credential rest inductionHypothesis =>
    rw [fillIn_cons,
      inductionHypothesis _ fun later member => other later (List.mem_cons_of_mem _ member)]
    exact get?_fillOne_of_ne keychain environment credential (other credential (by simp))

/-- Behind filling in, the variable of each credential shows what it did, or else what the
keychain gives. The steps of the other credentials leave it. -/
theorem text?_fillIn_of_mem (credentials : List Credential) (environment : Environment)
    {credential : Credential} (member : credential ∈ credentials) :
    (fillIn keychain credentials environment).1.text? credential.variableName =
      (environment.text? credential.variableName).or (keychain.lookup credential).value? := by
  induction credentials generalizing environment with
  | nil => cases member
  | cons first rest inductionHypothesis =>
    rw [fillIn_cons]
    by_cases later : credential ∈ rest
    · rw [inductionHypothesis _ later]
      by_cases same : credential = first
      · rw [same, text?_fillOne_self, Option.or_assoc, Option.or_self]
      · have other : credential.variableName ≠ first.variableName :=
          fun equal => same (Credential.variableName_injective equal)
        rw [Environment.text?_congr (get?_fillOne_of_ne keychain environment first other)]
    · obtain rfl : credential = first := (List.mem_cons.mp member).resolve_right later
      have left : (fillIn keychain rest (fillOne keychain environment credential)).1.get?
          credential.variableName =
            (fillOne keychain environment credential).get? credential.variableName := by
        refine get?_fillIn_of_ne keychain rest _ ?_
        rintro other present equal
        exact later (Credential.variableName_injective equal ▸ present)
      rw [Environment.text?_congr left, text?_fillOne_self]

/-- The credentials that are looked up are those whose variables show nothing, in order. A
step does not change whether a later one looks up. -/
theorem attempts_fillIn {credentials : List Credential} (distinct : credentials.Nodup)
    (environment : Environment) :
    (fillIn keychain credentials environment).2 =
      (credentials.filter fun credential => environment.text? credential.variableName = none).map
        fun credential => ⟨credential, keychain.lookup credential⟩ := by
  induction credentials generalizing environment with
  | nil => rfl
  | cons credential rest inductionHypothesis =>
    obtain ⟨fresh, distinctRest⟩ := List.nodup_cons.mp distinct
    have later : (rest.filter fun later =>
          (fillOne keychain environment credential).text? later.variableName = none) =
        rest.filter fun later => environment.text? later.variableName = none := by
      refine List.filter_congr fun other member => ?_
      have apart : other.variableName ≠ credential.variableName := by
        intro same
        exact fresh (Credential.variableName_injective same ▸ member)
      rw [Environment.text?_congr (get?_fillOne_of_ne keychain environment credential apart)]
    rw [fillIn_cons, inductionHypothesis distinctRest, later, List.filter_cons]
    by_cases shown : environment.text? credential.variableName = none
    · simp [shown]
    · simp [shown]

end Run

section Fill

variable (environment : Environment) (keychain : Keychain)

/-- Filled from a keychain, the variable of a credential shows what it did, or else what the
keychain gives. -/
theorem text?_fillFrom (credential : Credential) :
    (environment.fillFrom keychain).1.text? credential.variableName =
      (environment.text? credential.variableName).or (keychain.lookup credential).value? :=
  text?_fillIn_of_mem keychain Credential.all environment credential.mem_all

/-- Only the variables of credentials are filled. -/
theorem get?_fillFrom_of_ne {name : String}
    (other : ∀ credential : Credential, name ≠ credential.variableName) :
    (environment.fillFrom keychain).1.get? name = environment.get? name :=
  get?_fillIn_of_ne keychain Credential.all environment fun credential _ => other credential

/-- The attempts to look up credentials, in order. -/
theorem attempts_fillFrom :
    (environment.fillFrom keychain).2 =
      (Credential.all.filter fun credential =>
        environment.text? credential.variableName = none).map
          fun credential => ⟨credential, keychain.lookup credential⟩ :=
  attempts_fillIn keychain (by decide) environment

/-- The credentials that are filled in are those whose variables show nothing and which the
keychain gives, in order. -/
theorem filledBy_fillFrom :
    filledBy (environment.fillFrom keychain).2 =
      Credential.all.filter fun credential =>
        environment.text? credential.variableName = none ∧
          (keychain.lookup credential).value?.isSome := by
  rw [attempts_fillFrom, filledBy, List.filter_map, List.filter_filter, List.map_map]
  simp [Function.comp_def, Bool.and_comm]

end Fill

end Settings

end ExchangeWallet
