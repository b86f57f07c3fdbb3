import Mathlib
import ExchangeWallet.Signing.Signer
/-!
# Headers by name

A header is looked up by its name in whatever case the letters are given. Where no two
headers of a request have one name, up to the case of letters, every header is found under
every casing of its name.
-/
namespace ExchangeWallet.Signing

/-- The same name, with each ASCII letter in any case. -/
def Recased (name recased : String) : Prop :=
  List.Forall₂ (fun letter other => other = letter ∨ other = letter.toLower ∨ other = letter.toUpper)
    name.toList recased.toList

instance (name recased : String) : Decidable (Recased name recased) :=
  inferInstanceAs (Decidable (List.Forall₂ _ _ _))

example : Recased "bfx-signature" "BFX-Signature" ∧ ¬ Recased "bfx-signature" "bfx_signature" := by
  decide

/-- Lower case is kept by taking lower case. -/
theorem toLower_toLower (letter : Char) : letter.toLower.toLower = letter.toLower := by
  unfold Char.toLower
  grind

/-- Lower case is the same of a letter and of its upper case. Upper case changes only the
26 small letters, which are looked at one by one. -/
theorem toLower_toUpper (letter : Char) : letter.toUpper.toLower = letter.toLower := by
  by_cases small : 'a'.val ≤ letter.val ∧ letter.val ≤ 'z'.val
  · have least : 97 ≤ letter.val.toNat := UInt32.le_iff_toNat_le.mp small.1
    have most : letter.val.toNat ≤ 122 := UInt32.le_iff_toNat_le.mp small.2
    have smallLetters : ∀ place : Fin 26,
        (Char.ofNat (97 + place)).toUpper.toLower = (Char.ofNat (97 + place)).toLower := by decide
    have place : letter = Char.ofNat (97 + (⟨letter.val.toNat - 97, by omega⟩ : Fin 26)) := by
      rw [show 97 + (letter.val.toNat - 97) = letter.toNat by rw [Char.toNat]; omega,
        Char.ofNat_toNat]
    rw [place]
    exact smallLetters _
  · rw [Char.toUpper, dif_neg small]

/-- Every casing of a name has the same lower case. -/
theorem lowered_of_recased {name recased : String} (same : Recased name recased) :
    Request.lowered recased = Request.lowered name := by
  have letters : List.Forall₂ (fun other letter => other = letter)
      (recased.toList.map Char.toLower) (name.toList.map Char.toLower) := by
    rw [List.forall₂_map_left_iff, List.forall₂_map_right_iff]
    refine (List.Forall₂.imp ?_ same).flip
    rintro letter other (rfl | rfl | rfl)
    · rfl
    · exact toLower_toLower letter
    · exact toLower_toUpper letter
  rwa [List.forall₂_eq_eq_eq] at letters

/-- Among headers of different names each is found under every casing of its name. -/
theorem find?_of_recased {headers : List (String × String)}
    (different : (headers.map fun header => Request.lowered header.1).Nodup)
    {header : String × String} (member : header ∈ headers) {name : String}
    (recased : Recased header.1 name) :
    headers.find? (fun other => Request.lowered other.1 == Request.lowered name) = some header := by
  rw [lowered_of_recased recased]
  induction headers with
  | nil => cases member
  | cons first rest inductionHypothesis =>
    obtain ⟨others, differentRest⟩ := List.nodup_cons.mp different
    rcases List.mem_cons.mp member with rfl | inRest
    · exact List.find?_cons_of_pos (by simp)
    · have unlike : Request.lowered first.1 ≠ Request.lowered header.1 := by
        intro same
        apply others
        exact List.mem_map.mpr ⟨header, inRest, same.symm⟩
      rw [List.find?_cons_of_neg (by simpa using unlike)]
      exact inductionHypothesis differentRest inRest

/-- Where names differ, each header of a request is found under every casing of its name. -/
theorem header?_of_recased {request : Request}
    (different : (request.headers.map fun header => Request.lowered header.1).Nodup)
    {header : String × String} (member : header ∈ request.headers) {name : String}
    (recased : Recased header.1 name) : request.header? name = some header.2 := by
  rw [Request.header?, find?_of_recased different member recased]
  rfl

end ExchangeWallet.Signing
