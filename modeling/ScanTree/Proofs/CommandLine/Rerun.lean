import ScanTree.Proofs.CommandLine.Completion
import ScanTree.Proofs.Preferences.Store
import ScanTree.Proofs.View.Likeness

/-!
# Runs after a run that saved its view

A run that saves its view leaves preferences behind that stand for the view: the
empty text is no id, and where no id is saved the root stands in, but neither
matters, since the empty text is no node and the root has no row.  So a later
run that asks for the same tree, and for nothing about the view, shows the same
lines.
-/

namespace ScanTree

namespace CommandLine

namespace Options

/-! ## What is saved -/

/-- The savings of a run that showed a view, in order. -/
def savings (options : Options) (view : View) : List Saving :=
  [.showExcluded view.showExcluded, .orderBy view.orderBy.name, .costMetric view.metric.name,
    .expanded view.expanded] ++ (options.themeName.map Saving.theme).toList

theorem savedPreferences_eq_run (options : Options) (preferences : Storage) (view : View) :
    options.savedPreferences preferences view = preferences.run (options.savings view) := by
  unfold savedPreferences savings
  cases options.themeName <;> simp [Storage.run, Storage.perform]

section Saved

variable (options : Options) {preferences : Storage} (view : View)
  (writable : preferences ≠ .blocked)

include writable

/-- A preference other than the theme is what the first four savings of a run say
of it. -/
theorem load_savedPreferences {α : Type} (preference : Preference α)
    (noTheme : ∀ name, preference.saved? (.theme name) = none) :
    preference.load (options.savedPreferences preferences view) =
      latest preference.saved? [.showExcluded view.showExcluded, .orderBy view.orderBy.name,
        .costMetric view.metric.name, .expanded view.expanded] (preference.load preferences) := by
  rw [savedPreferences_eq_run, preference.load_run writable, savings]
  cases options.themeName <;> simp [latest, noTheme]

theorem loadShowExcluded_saved :
    (options.savedPreferences preferences view).loadShowExcluded = view.showExcluded :=
  load_savedPreferences options view writable Preference.shown fun _ => rfl

theorem loadOrderBy_saved :
    (options.savedPreferences preferences view).loadOrderBy = view.orderBy := by
  refine (load_savedPreferences options view writable Preference.order fun _ => rfl).trans ?_
  simp [latest, Preference.order, List.findSome?_cons, Saving.order?, Except.toOption]

theorem loadCostMetric_saved :
    (options.savedPreferences preferences view).loadCostMetric = view.metric := by
  refine (load_savedPreferences options view writable Preference.metric fun _ => rfl).trans ?_
  simp [latest, Preference.metric, List.findSome?_cons, Saving.metric?, Except.toOption]

theorem mem_loadExpanded_saved {id : String} :
    id ∈ (options.savedPreferences preferences view).loadExpanded ↔
      id ∈ view.expanded ∧ id ≠ "" := by
  have loaded : {id | id ∈ (options.savedPreferences preferences view).loadExpanded} =
      {id | id ∈ view.expanded ∧ id ≠ ""} :=
    load_savedPreferences options view writable Preference.expanded fun _ => rfl
  exact Set.ext_iff.1 loaded id

end Saved

/-! ## The run and its repetition -/

/-- Options ask for the tree that others ask for, and leave the view to the
preferences. -/
structure Repeats (again first : Options) : Prop where
  trace : again.trace = first.trace
  compare : again.compare = first.compare
  search : again.search = first.search
  maxCols : again.maxCols = first.maxCols
  showExcluded : again.showExcluded = none
  order : again.order = none
  costMetric : again.costMetric = none
  expand : again.expand = none
  expandAll : again.expandAll = false
  details : again.details = none

end Options

namespace Options

namespace Repeats

variable {first again : Options} {world later : World} {loaded : Loaded} {index : Index}
  {lines : List String}

/-- The view that is left to the saved preferences shows the same as the view that
was saved. -/
theorem alike (repeats : again.Repeats first) (writable : world.preferences ≠ .blocked)
    (traced : index.FromTraces) (view : View) (sameSearch : view.search = first.searchText) :
    View.Alike index view
      (again.view (first.savedPreferences world.preferences view) index) where
  showExcluded := by
    simp only [Options.view, repeats.showExcluded, Option.getD_none]
    exact (first.loadShowExcluded_saved view writable).symm
  search := by
    rw [sameSearch, Options.view, searchText, searchText, repeats.search]
  orderBy := by
    simp only [Options.view, repeats.order, Option.getD_none]
    exact (first.loadOrderBy_saved view writable).symm
  metric := by
    simp only [Options.view, repeats.costMetric, Option.getD_none]
    exact (first.loadCostMetric_saved view writable).symm
  expanded := by
    intro id known notRoot
    have nonempty : id ≠ "" := fun isEmpty => traced.empty_notMem_ids (isEmpty ▸ known)
    have saved : id ∈ (first.savedPreferences world.preferences view).loadExpanded ↔
        id ∈ view.expanded := by
      rw [mem_loadExpanded_saved first view writable]
      exact and_iff_left nonempty
    rw [← saved]
    simp only [Options.view, expandedIds, repeats.expandAll, repeats.expand]
    -- The root stands in for no ids at all, but it is not asked about.
    cases (first.savedPreferences world.preferences view).loadExpanded with
    | nil =>
        rw [traced.isTree.rootId_eq] at notRoot
        simp [notRoot]
    | cons => rfl

end Repeats

end Options

end CommandLine

end ScanTree
