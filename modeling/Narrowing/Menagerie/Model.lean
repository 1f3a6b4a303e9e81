import Narrowing.Menagerie.Likeness
import Narrowing.Menagerie.Membership

/-!
# The menagerie as an object model

`model` puts the answers of the menagerie's objects together: those to `isinstance`
(`Value.belongs`), `==` (`Value.equal`), `bool` (`Value.truth`), `repr` (`Value.display`) and
`hash` (`Value.fingerprint`). The hits that a classifier
of the library makes are hits outright, and they exist once for each payload: nothing can
tell two of them apart, because only what they carry is ever looked at.
-/

namespace Narrowing.Menagerie

/-- **The object model of the menagerie.** -/
def model : ObjectModel Value Species where
  none := .none
  ofBool := .bool
  hit := .hit .shared .own
  miss := .miss
  speciesOf := Value.species
  ofSpecies := .ofSpecies
  asSpecies := Value.asSpecies
  noneSpecies := .void
  title := Species.title
  belongs := Value.belongs
  descends := Species.counts
  equal := Value.equal
  truth := Value.truth
  display := Value.display
  fingerprint := Value.fingerprint
  textOf := Value.text?
  isHit := Value.isHit
  isMiss := Value.isMiss
  payload := Value.payload
  truth_ofBool _ := rfl
  display_ofBool b := by cases b <;> rfl
  isHit_ofBool b := by cases b <;> rfl
  isMiss_ofBool b := by cases b <;> rfl
  isHit_hit _ := rfl
  isMiss_hit _ := rfl
  payload_hit _ := rfl
  isHit_miss := rfl
  isMiss_miss := rfl
  speciesOf_none := rfl
  belongs_speciesOf := Value.belongs_species

end Narrowing.Menagerie
