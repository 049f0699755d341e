import ComplianceScanner.Proofs.Entries
import ComplianceScanner.Proofs.Series

/-!
# What is listed in a history

Three conditions on the objects that a cluster shows in the course of a history, each of which a
cluster may break: *consistent* listings show an object unchanged under an unchanged resource
version, *steady* ones keep an object of one name what it is, and *distinct* ones let no two objects
share their labels.
-/

namespace ComplianceScanner

/-- Objects of one name that are listed with the same resource version are the same. -/
def Consistent (views : List ObjectView) : Prop :=
  ∀ view ∈ views, ∀ view' ∈ views, ∀ subject,
    view.subject? = some subject → view'.subject? = some subject →
      view.resourceVersion = view'.resourceVersion →
        view.uid = view'.uid ∧ view.object.owners = view'.object.owners ∧
          view.data = view'.data ∧ view.namespaceUid = view'.namespaceUid

/-- Objects of one name keep their uids, and none comes to be left to its owner. -/
def Steady (views : List ObjectView) : Prop :=
  views.Pairwise fun earlier later => ∀ subject,
    earlier.subject? = some subject → later.subject? = some subject →
      later.uid = earlier.uid ∧ later.namespaceUid = earlier.namespaceUid ∧
      (later.isLeftToOwner = true → earlier.isLeftToOwner = true)

/-- No two objects share their labels. -/
def Distinct (views : List ObjectView) : Prop :=
  ∀ view ∈ views, ∀ view' ∈ views, ∀ subject subject',
    view.subject? = some subject → view'.subject? = some subject' →
      view.labels = view'.labels → subject = subject'

theorem forall_some_iff {α : Type} {a b : Option α} {motive : Prop} :
    (∀ item, a = some item → b = some item → motive) ↔ (a = b → a ≠ none → motive) := by
  constructor
  · rintro h rfl hne
    obtain ⟨item, rfl⟩ := Option.ne_none_iff_exists'.mp hne
    exact h item rfl rfl
  · rintro h item rfl rfl
    exact h rfl (Option.some_ne_none item)

instance (views : List ObjectView) : Decidable (Steady views) :=
  decidable_of_iff (views.Pairwise fun earlier later =>
    earlier.subject? = later.subject? → earlier.subject? ≠ none →
      later.uid = earlier.uid ∧ later.namespaceUid = earlier.namespaceUid ∧
      (later.isLeftToOwner = true → earlier.isLeftToOwner = true)) (by
    simp only [Steady, forall_some_iff])

instance (views : List ObjectView) : Decidable (Distinct views) :=
  decidable_of_iff (∀ view ∈ views, ∀ view' ∈ views, view.labels = view'.labels →
    view.subject? ≠ none → view'.subject? ≠ none → view.subject? = view'.subject?) (by
    unfold Distinct
    refine forall_congr' fun view => forall_congr' fun _ => forall_congr' fun view' =>
      forall_congr' fun _ => ?_
    cases view.subject? <;> cases view'.subject? <;> simp)

theorem Consistent.subset {views views' : List ObjectView} (hconsistent : Consistent views)
    (hsubset : views' ⊆ views) : Consistent views' :=
  fun view hview view' hview' => hconsistent view (hsubset hview) view' (hsubset hview')

theorem Distinct.subset {views views' : List ObjectView} (hdistinct : Distinct views)
    (hsubset : views' ⊆ views) : Distinct views' :=
  fun view hview view' hview' => hdistinct view (hsubset hview) view' (hsubset hview')

theorem ObjectView.labels_eq_of_subject? {view view' : ObjectView} {subject : Subject}
    (hsubject : view.subject? = some subject) (hsubject' : view'.subject? = some subject)
    (huid : view'.uid = view.uid) (hnamespace : view'.namespaceUid = view.namespaceUid) :
    view.labels = view'.labels := by
  rw [← labels_of_subject? .valid hsubject, ← labels_of_subject? .valid hsubject', Subject.labels,
    Subject.labels, CacheEntry.ofView, CacheEntry.ofView, huid, hnamespace]

namespace CheckEngine

/-- The entry that a judgement by these checks leaves, if the object can be judged. -/
def entryOf? (enabled : List Check) (view : ObjectView) : Option CacheEntry :=
  (verdict enabled view).toOption.map (.ofView view)

theorem fault?_eq_none_iff {view : ObjectView} {subject : Subject}
    (hsubject : view.subject? = some subject) : view.fault? = none ↔ view.data.isObject = true := by
  obtain ⟨name, hname, -⟩ := Option.map_eq_some_iff.mp hsubject
  rw [ObjectView.fault?, hname]
  simp

theorem verdict_eq_of_fault?_eq_none (enabled : List Check) {view : ObjectView}
    (hfault : view.fault? = none) :
    verdict enabled view =
      .ok (if view.isLeftToOwner = true ∨ view.isScaledToZero = true then .ignored
        else if view.faults enabled = [] then .valid else .needsImprovement) := by
  unfold verdict
  rcases validate_cases { enabled } view with
    ⟨error, herror, -⟩ | ⟨-, hleft, h⟩ | ⟨-, hleft, hscaled, h⟩ | ⟨-, hleft, hscaled, h⟩
  · rw [hfault] at herror
    cases herror
  · rw [h]
    simp [hleft]
  · rw [h]
    simp [hscaled]
  · rw [h]
    simp [hleft, hscaled]

variable {view view' : ObjectView} {subject : Subject}

theorem faults_congr (enabled : List Check) (hsubject : view.subject? = some subject)
    (hsubject' : view'.subject? = some subject) (hdata : view.data = view'.data) :
    view.faults enabled = view'.faults enabled := by
  rw [ObjectView.faults, ObjectView.faults, ObjectView.group_of_subject? hsubject,
    ObjectView.kind_of_subject? hsubject, ObjectView.group_of_subject? hsubject',
    ObjectView.kind_of_subject? hsubject', hdata]

theorem verdict_congr (enabled : List Check) (hsubject : view.subject? = some subject)
    (hsubject' : view'.subject? = some subject)
    (howners : view.object.owners = view'.object.owners) (hdata : view.data = view'.data) :
    (verdict enabled view).toOption = (verdict enabled view').toOption := by
  have hleft : view.isLeftToOwner = view'.isLeftToOwner := by
    rw [ObjectView.isLeftToOwner, ObjectView.isLeftToOwner, ObjectView.group_of_subject? hsubject,
      ObjectView.kind_of_subject? hsubject, ObjectView.group_of_subject? hsubject',
      ObjectView.kind_of_subject? hsubject', ObjectView.isManaged, ObjectView.isManaged, howners]
  have hscaled : view.isScaledToZero = view'.isScaledToZero := by
    rw [ObjectView.isScaledToZero, ObjectView.isScaledToZero, hdata]
  have hfault : view.fault? = none ↔ view'.fault? = none := by
    rw [fault?_eq_none_iff hsubject, fault?_eq_none_iff hsubject', hdata]
  have herror : ∀ view : ObjectView, view.fault? ≠ none →
      (verdict enabled view).toOption = none := by
    intro view hne
    obtain ⟨error, herror⟩ := Option.ne_none_iff_exists'.mp hne
    rw [verdict, validate, herror]
    rfl
  by_cases hnone : view.fault? = none
  · rw [verdict_eq_of_fault?_eq_none enabled hnone,
      verdict_eq_of_fault?_eq_none enabled (hfault.mp hnone), hleft, hscaled,
      faults_congr enabled hsubject hsubject' hdata]
  · rw [herror view hnone, herror view' fun hnone' => hnone (hfault.mpr hnone')]

/-- In a consistent history the entry of an object is settled by its resource version. -/
theorem entryOf?_congr {views : List ObjectView} (hconsistent : Consistent views)
    (enabled : List Check) (hmem : view ∈ views) (hmem' : view' ∈ views)
    (hsubject : view.subject? = some subject) (hsubject' : view'.subject? = some subject)
    (hversion : view.resourceVersion = view'.resourceVersion) :
    entryOf? enabled view = entryOf? enabled view' := by
  obtain ⟨huid, howners, hdata, hnamespace⟩ :=
    hconsistent view hmem view' hmem' subject hsubject hsubject' hversion
  have hentry : CacheEntry.ofView view = CacheEntry.ofView view' := by
    funext outcome
    rw [CacheEntry.ofView, CacheEntry.ofView, hversion, huid, hnamespace]
  rw [entryOf?, entryOf?, verdict_congr enabled hsubject hsubject' howners hdata, hentry]

end CheckEngine

end ComplianceScanner
