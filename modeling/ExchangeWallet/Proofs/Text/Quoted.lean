import ExchangeWallet.Proofs.Text.Runs
import ExchangeWallet.Text.Quoted
/-!
# Quoted texts can be told apart

The visible form of a character ends where it ends, whatever stands behind it, and no
character has the form of another one. So a quoted text ends at its closing quote, and it is
the form of one text only. What is written for inspection can therefore be read back, texts
that are hidden from view as well as others.
-/
namespace ExchangeWallet.Text

/-- The characters that are shown by a letter behind a backslash. -/
def shortForms : List (Char × Char) :=
  [('\x00', '0'), ('\t', 't'), ('\r', 'r'), ('\n', 'n'), ('"', '"'), ('\\', '\\')]

/-- The forms in which characters are shown. -/
inductive Shows : Char → List Char → Prop
  | plain {character : Char} (noQuote : character ≠ '"') (noBackslash : character ≠ '\\') :
      Shows character [character]
  | short {character letter : Char} (listed : (character, letter) ∈ shortForms) :
      Shows character ['\\', letter]
  | braced (character : Char) : Shows character (bracedCodePoint character)

/-- The visible form of a character is one of these. -/
theorem visible_shows (character : Char) : Shows character (visible character) := by
  unfold visible
  split_ifs with zero tab carriage line quote backslash range hidden
  · exact .short (by subst zero; decide)
  · exact .short (by subst tab; decide)
  · exact .short (by subst carriage; decide)
  · exact .short (by subst line; decide)
  · exact .short (by subst quote; decide)
  · exact .short (by subst backslash; decide)
  · exact .plain quote backslash
  · exact .braced character
  · exact .plain quote backslash

section Hexadecimal

/-- What is true of sixteen digits is true of the digits of every number in hexadecimal. -/
theorem forall_mem_toDigits {holds : Char → Prop}
    (single : ∀ value < 16, holds (Nat.digitChar value)) (number : Nat) :
    ∀ digit ∈ Nat.toDigits 16 number, holds digit := by
  induction number using Nat.strongRecOn with
  | ind number inductionHypothesis =>
    by_cases small : number < 16
    · rw [Nat.toDigits_of_lt_base small]
      simpa using single number small
    · rw [Nat.toDigits_of_base_le (by decide) (by omega)]
      intro digit member
      rcases List.mem_append.mp member with front | last
      · exact inductionHypothesis (number / 16) (by omega) digit front
      · obtain rfl := List.mem_singleton.mp last
        exact single (number % 16) (Nat.mod_lt _ (by decide))

/-- A number is told by its digits in hexadecimal. The last digit is the remainder, and the
others are those of the quotient. -/
theorem toDigits_sixteen_injective {first second : Nat}
    (same : Nat.toDigits 16 first = Nat.toDigits 16 second) : first = second := by
  have single : ∀ value < 16, ∀ other < 16, Nat.digitChar value = Nat.digitChar other →
      value = other := by decide
  induction first using Nat.strongRecOn generalizing second with
  | ind first inductionHypothesis =>
    have length (number : Nat) : (Nat.toDigits 16 number).length ≤ 1 ↔ number < 16 :=
      Nat.length_toDigits_le_iff (by decide) (by decide)
    have sizes : first < 16 ↔ second < 16 := by rw [← length, ← length, same]
    by_cases small : first < 16
    · have otherSmall := sizes.mp small
      rw [Nat.toDigits_of_lt_base small, Nat.toDigits_of_lt_base otherSmall] at same
      exact single first small second otherSmall (List.singleton_inj.mp same)
    · have otherLarge := mt sizes.mpr small
      rw [Nat.toDigits_of_base_le (by decide) (Nat.le_of_not_lt small),
        Nat.toDigits_of_base_le (by decide) (Nat.le_of_not_lt otherLarge)] at same
      obtain ⟨fronts, lasts⟩ := List.append_inj' same rfl
      have quotient := inductionHypothesis (first / 16) (by omega) fronts
      have remainder := single (first % 16) (Nat.mod_lt _ (by decide)) (second % 16)
        (Nat.mod_lt _ (by decide)) (List.singleton_inj.mp lasts)
      omega

end Hexadecimal

variable {first second : Char} {form otherForm rest otherRest : List Char}

/-- The number between braces ends at the closing one. -/
theorem bracedCodePoint_unique
    (same : bracedCodePoint first ++ rest = bracedCodePoint second ++ otherRest) :
    first = second ∧ rest = otherRest := by
  have inside (character : Char) :
      ∀ digit ∈ Nat.toDigits 16 character.toNat, (digit != '\x7d') = true :=
    forall_mem_toDigits (by decide) character.toNat
  simp only [bracedCodePoint, List.cons_append, List.append_assoc, List.cons.injEq,
    true_and, List.nil_append] at same
  obtain ⟨digits, rests⟩ := run_unique (inside first) (by simp) (inside second) (by simp) same
  exact ⟨Char.toNat_inj.mp (toDigits_sixteen_injective digits), (List.cons.inj rests).2⟩

/-- Two forms in front of the same text are the same form, and of the same character. The
first character tells the plain forms, and the second the short ones. -/
theorem Shows.unique (shown : Shows first form) (also : Shows second otherForm)
    (same : form ++ rest = otherForm ++ otherRest) : first = second ∧ rest = otherRest := by
  have lettersApart : ∀ pair ∈ shortForms, ∀ other ∈ shortForms, pair.2 = other.2 →
      pair.1 = other.1 := by decide
  have noBrace : ∀ pair ∈ shortForms, pair.2 ≠ 'u' := by decide
  cases shown with
  | plain noQuote noBackslash =>
    cases also with
    | plain => simpa using same
    | short => exact absurd (List.cons.inj same).1 noBackslash
    | braced => exact absurd (List.cons.inj same).1 noBackslash
  | short listed =>
    cases also with
    | plain noQuote noBackslash => exact absurd (List.cons.inj same).1.symm noBackslash
    | short otherListed =>
      obtain ⟨letters, rests⟩ := List.cons.inj (List.cons.inj same).2
      exact ⟨lettersApart _ listed _ otherListed letters, rests⟩
    | braced => exact absurd (List.cons.inj (List.cons.inj same).2).1 (noBrace _ listed)
  | braced =>
    cases also with
    | plain noQuote noBackslash => exact absurd (List.cons.inj same).1.symm noBackslash
    | short listed => exact absurd (List.cons.inj (List.cons.inj same).2).1.symm (noBrace _ listed)
    | braced => exact bracedCodePoint_unique same

/-- No form begins with a quote. -/
theorem Shows.ne_quote (shown : Shows first form) : '"' :: rest ≠ form ++ otherRest := by
  intro same
  cases shown with
  | plain noQuote => exact noQuote (List.cons.inj same).1.symm
  | short => exact absurd (List.cons.inj same).1 (by decide)
  | braced => exact absurd (List.cons.inj same).1 (by decide)

/-- The forms of characters in front of a quote are those of the same characters. -/
theorem flatMap_visible_unique {characters others : List Char}
    (same : characters.flatMap visible ++ '"' :: rest =
      others.flatMap visible ++ '"' :: otherRest) :
    characters = others ∧ rest = otherRest := by
  induction characters generalizing others with
  | nil =>
    cases others with
    | nil => exact ⟨rfl, (List.cons.inj same).2⟩
    | cons character more =>
      rw [List.flatMap_cons, List.append_assoc] at same
      exact absurd same (visible_shows character).ne_quote
  | cons character more inductionHypothesis =>
    rw [List.flatMap_cons, List.append_assoc] at same
    cases others with
    | nil => exact absurd same.symm (visible_shows character).ne_quote
    | cons otherCharacter otherMore =>
      rw [List.flatMap_cons, List.append_assoc] at same
      obtain ⟨rfl, behind⟩ := (visible_shows character).unique (visible_shows otherCharacter) same
      obtain ⟨rfl, rests⟩ := inductionHypothesis behind
      exact ⟨rfl, rests⟩

/-- A text between quotes ends at the closing one, whatever stands behind it. -/
theorem quoted_unique {text other : String}
    (same : quoted text ++ rest = quoted other ++ otherRest) : text = other ∧ rest = otherRest := by
  simp only [quoted, List.cons_append, List.append_assoc, List.cons.injEq, true_and,
    List.nil_append] at same
  obtain ⟨characters, rests⟩ := flatMap_visible_unique same
  exact ⟨String.toList_inj.mp characters, rests⟩

section Inspection

variable {behind otherBehind : String}

/-- A text for inspection is told from what stands behind it. -/
theorem inspect_unique {text other : String}
    (same : inspect text ++ behind = inspect other ++ otherBehind) :
    text = other ∧ behind = otherBehind := by
  have characters := congrArg String.toList same
  simp only [inspect, String.toList_append, String.toList_ofList] at characters
  obtain ⟨texts, rests⟩ := quoted_unique characters
  exact ⟨texts, String.toList_inj.mp rests⟩

/-- The first letter shows whether an optional text is there. -/
theorem head?_inspectOption (text : Option String) (behind : String) :
    (inspectOption text ++ behind).toList.head? = some (if text.isSome then 'S' else 'N') := by
  cases text with
  | none => rw [String.toList_append]; rfl
  | some text =>
    change ("Some(" ++ inspect text ++ ")" ++ behind).toList.head? = _
    rw [String.append_assoc, String.append_assoc, String.toList_append]
    rfl

/-- An optional text for inspection is told from what stands behind it, too. -/
theorem inspectOption_unique {text other : Option String}
    (same : inspectOption text ++ behind = inspectOption other ++ otherBehind) :
    text = other ∧ behind = otherBehind := by
  have heads := head?_inspectOption text behind
  rw [same, head?_inspectOption] at heads
  cases text with
  | none =>
    cases other with
    | none => exact ⟨rfl, (String.append_right_inj "None").mp same⟩
    | some other => simp at heads
  | some text =>
    cases other with
    | none => simp at heads
    | some other =>
      have parts : "Some(" ++ inspect text ++ ")" ++ behind =
          "Some(" ++ inspect other ++ ")" ++ otherBehind := same
      simp only [String.append_assoc, String.append_right_inj] at parts
      obtain ⟨rfl, rests⟩ := inspect_unique parts
      exact ⟨rfl, (String.append_right_inj ")").mp rests⟩

/-- Optional texts are told apart. -/
theorem inspectOption_inj {text other : Option String} :
    inspectOption text = inspectOption other ↔ text = other := by
  constructor
  · intro same
    exact (inspectOption_unique (congrArg (· ++ "") same)).1
  · rintro rfl
    rfl

end Inspection

end ExchangeWallet.Text
