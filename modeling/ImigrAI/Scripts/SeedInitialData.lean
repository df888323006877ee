import ImigrAI.Scripts.MvpRules

/-!
# Seeding the initial data

`seed_initial_data` seeds the catalogue and then the rules of the countries that are said to have
fixtures. Both seeders find or create their rows, so a second run has nothing to do.
-/

namespace ImigrAI.Scripts

open Python Upserts

/-- What the seeders read: the catalogue, the fixtures and the constants beside them. -/
structure SeedData where
  catalog : List CatalogCountry
  effectiveFrom : Instant
  fixtures : List (String × Fixture)
  fixtureCountryCodes : List String

def mvpSeedData : SeedData where
  catalog := mvpCountryCatalog
  effectiveFrom := mvpProgramEffectiveFrom
  fixtures := mvpRuleFixtures
  fixtureCountryCodes := mvpRuleFixtureCountryCodes

section RunSeed

variable [ColumnTypes] [UnicodeData]

def runSeed (data : SeedData) : Script schema Unit := do
  seedMvpCatalog data.catalog data.effectiveFrom
  seedForCountries data.fixtures data.fixtureCountryCodes

/-- A completed run changes nothing when it is repeated, whatever was stored before it. -/
theorem runSeed_idempotent (data : SeedData) (first second : Store schema → NewRow)
    (store after : Store schema) (completed : (runSeed data).run first store = .ok (after, ())) :
    (runSeed data).run second after = .ok (after, ()) :=
  Script.run_again completed

end RunSeed

section EmptyDatabase

/-- A database that does not enforce the lengths of texts. -/
abbrev ColumnTypes.any : ColumnTypes where
  accept _ := true

local instance emptyColumns : ColumnTypes := .any

local instance emptyUnicode : UnicodeData := .ascii

def emptyStore : Store schema where
  rows _ := []

/-- The number of rows as the id of a new one. -/
def countingDraw (store : Store schema) : NewRow where
  id := ⟨((store.rows .countries).length + (store.rows .programs).length +
    (store.rows .programVersions).length + (store.rows .ruleGroups).length +
    (store.rows .ruleConditions).length + (store.rows .ruleOutcomes).length +
    (store.rows .sourceRegistry).length + (store.rows .sourceDocuments).length) % 2 ^ 128,
    Nat.mod_lt _ (by decide)⟩
  createdAt := mvpProgramEffectiveFrom

theorem runSeed_emptyStore :
    ∃ after, (runSeed mvpSeedData).run countingDraw emptyStore = .ok (after, ()) := by
  have completes : ((runSeed mvpSeedData).run countingDraw emptyStore).isOk := by decide +kernel
  rcases Fallible.exists_of_isOk completes with ⟨⟨after, _⟩, completed⟩
  exact ⟨after, completed⟩

theorem runSeed_idempotent_sample :
    ∃ after, (runSeed mvpSeedData).run countingDraw emptyStore = .ok (after, ()) ∧
      (runSeed mvpSeedData).run countingDraw after = .ok (after, ()) := by
  rcases runSeed_emptyStore with ⟨after, completed⟩
  exact ⟨after, completed,
    runSeed_idempotent mvpSeedData countingDraw countingDraw emptyStore after completed⟩

end EmptyDatabase

end ImigrAI.Scripts
