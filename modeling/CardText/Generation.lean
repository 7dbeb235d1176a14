import CardText.Coverage.Report
import CardText.Unit

/-! A whole run in memory: the documents are read, the sets of all of them are grouped,
and each set yields its unit and its coverage. One bad card stops the run. -/
namespace CardText

structure Generation where
  units : List SetUnit
  /-- By name of the set, in the order of the units. -/
  reports : List (String × Coverage)
  combined : Coverage

namespace Generation

def ofSets (options : Options) (sets : List ReadSet) : Generation :=
  let rules := defaultDispatcher.rules.length
  let reports := sets.map fun read => (read.set.name, Coverage.ofSet rules read)
  { units := sets.map (Emit.set options)
    reports
    combined := reports.foldl (fun combined (_, report) => combined.merge report) (.empty rules) }

def ofGroups (options : Options) (groups : List SetCards) : Except Error Generation := do
  let sets ← groups.mapM defaultDispatcher.readSet
  return ofSets options sets

def generateAll (options : Options) (documents : List String) : Except Error Generation := do
  let groups ← Dataset.loadAll documents
  ofGroups options groups

end Generation
end CardText
