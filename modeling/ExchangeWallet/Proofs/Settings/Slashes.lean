import ExchangeWallet.Settings.Configuration
/-!
# Slashes at the end of URLs

A slash is put behind a URL that does not end in one, and every other URL is left. So a second
slash is never added, wherever else one is ensured.
-/
namespace ExchangeWallet.Settings

/-- A URL ends in a slash. -/
def EndsInSlash (url : String) : Prop :=
  ∃ front : String, url = front ++ "/"

/-- A URL with a slash ensured at its end. -/
structure IsSlashed (url slashed : String) : Prop where
  ends : EndsInSlash slashed
  kept : EndsInSlash url → slashed = url
  added : ¬ EndsInSlash url → slashed = url ++ "/"

/-- The slash of a URL is its last character. -/
theorem endsInSlash_iff {url : String} : EndsInSlash url ↔ url.toList.getLast? = some '/' := by
  constructor
  · rintro ⟨front, rfl⟩
    simp
  · intro last
    obtain ⟨front, split⟩ := List.getLast?_eq_some_iff.mp last
    refine ⟨String.ofList front, String.toList_inj.mp ?_⟩
    rw [split, String.toList_append, String.toList_ofList]
    rfl

/-- A URL that ends in a slash is left. -/
theorem withSlash_of_endsInSlash {url : String} (ends : EndsInSlash url) : withSlash url = url :=
  if_pos (endsInSlash_iff.mp ends)

/-- A slash is put behind every other URL. -/
theorem withSlash_of_not_endsInSlash {url : String} (bare : ¬ EndsInSlash url) :
    withSlash url = url ++ "/" := by
  rw [withSlash, if_neg (mt endsInSlash_iff.mpr bare), String.push_eq_append,
    String.singleton_eq_ofList]

/-- A slash is ensured by putting one behind the URL where there is none, and in no other
way. -/
theorem isSlashed_iff {url slashed : String} : IsSlashed url slashed ↔ slashed = withSlash url := by
  by_cases ends : EndsInSlash url
  · rw [withSlash_of_endsInSlash ends]
    constructor
    · intro is
      exact is.kept ends
    · rintro rfl
      exact ⟨ends, fun _ => rfl, fun missing => absurd ends missing⟩
  · rw [withSlash_of_not_endsInSlash ends]
    constructor
    · intro is
      exact is.added ends
    · rintro rfl
      exact ⟨⟨url, rfl⟩, fun present => absurd present ends, fun _ => rfl⟩

/-- The default URL has its slash. -/
theorem isSlashed_defaultUrl : IsSlashed defaultUrl defaultUrl :=
  isSlashed_iff.mpr (by decide)

/-- A slash is put behind a URL once. -/
theorem withSlash_withSlash (url : String) : withSlash (withSlash url) = withSlash url :=
  withSlash_of_endsInSlash (isSlashed_iff.mpr rfl).ends

end ExchangeWallet.Settings
