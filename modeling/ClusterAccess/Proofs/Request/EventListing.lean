import ClusterAccess.Proofs.Request.Effects
import ClusterAccess.Proofs.Resource.Grammar
import ClusterAccess.Proofs.Resource.Selector
import ClusterAccess.Proofs.Wire.Encoding

/-!
The lists of events. The name of the object goes into a field selector as it is, so a name that
could end its requirement or begin another has to be refused before the selector is sent.
-/

namespace ClusterAccess

open Text

variable {σ κ : Type} {accessor : Accessor} {plan : Plan} {kind ns name selector : String}

inductive ListsEvents (ns name : String) : Accessor → String → Prop
  | notebook : ListsEvents ns name (.listNotebookEvents ns name) "Notebook"
  | claim : ListsEvents ns name (.listPvcEvents ns name) "PersistentVolumeClaim"

/-- The call lists events of the namespace, and the one parameter of its request is a selector that
is read as the two requirements on kind and name. -/
structure ClusterCall.SelectsEvents (call : ClusterCall) (ns kind name selector : String) :
    Prop where
  target : call.target = ⟨.events, some ns, none⟩
  operation : call.operation = .list { fields := some selector }
  sent : ∀ r, call.request = .ok r →
    parameters? (r.target.query.getD "") = some [("fieldSelector", selector)]
  read : FieldSelector.read? selector = some (FieldSelector.concerning kind name)

/-- Names of objects have nothing in them that is special in selectors. -/
theorem IsObjectName.plainInSelectors (h : IsObjectName name) :
    ∀ c ∈ name.toList, FieldSelector.isSpecial c = false := by
  intro c hc
  have hreserved := (h.plain c hc).1
  simp only [reservedInNames, List.mem_cons, List.not_mem_nil, or_false, not_or] at hreserved
  simp [FieldSelector.isSpecial, hreserved]

namespace Accessor

theorem exists_object_iff {kind : ResourceKind} (hkind : kind.namespaced = true) :
    (∃ target, object kind ns name = .ok target) ↔
      IsDnsLabel (Utf8.encode ns.toList) ∧ IsObjectName name := by
  simp only [object, bind_eq_ok, ResourceRef.namespaced_eq_ok, hkind, true_and, isLabel_iff]
  constructor
  · rintro ⟨target, objects, ⟨hlabel, rfl⟩, htarget⟩
    exact ⟨hlabel, ResourceRef.exists_named_iff.mp ⟨target, htarget⟩⟩
  · rintro ⟨hlabel, hname⟩
    obtain ⟨target, htarget⟩ := ResourceRef.exists_named_iff.mpr hname
    exact ⟨target, _, ⟨hlabel, rfl⟩, htarget⟩

end Accessor

namespace ListsEvents

theorem exists_plan_iff (h : ListsEvents ns name accessor kind) :
    (∃ plan, accessor.plan = .ok plan) ↔
      IsDnsLabel (Utf8.encode ns.toList) ∧ IsObjectName name := by
  rw [Accessor.exists_plan_iff]
  cases h with
  | notebook => exact Accessor.exists_object_iff (rfl : ResourceKind.notebooks.namespaced = true)
  | claim =>
      exact Accessor.exists_object_iff (rfl : ResourceKind.persistentVolumeClaims.namespaced = true)

theorem call_eq (h : ListsEvents ns name accessor kind) (hplan : accessor.plan = .ok plan) :
    plan.call = ⟨⟨.events, some ns, none⟩, .list (.involvedObject kind name)⟩ := by
  rw [Accessor.call_of_plan hplan]
  cases h <;> rfl

theorem plain_kind (h : ListsEvents ns name accessor kind) :
    ∀ c ∈ kind.toList, FieldSelector.isSpecial c = false := by
  have hnone : kind.toList.any FieldSelector.isSpecial = false := by cases h <;> decide
  simpa using hnone

theorem exists_selector (h : ListsEvents ns name accessor kind) (hplan : accessor.plan = .ok plan) :
    ∃ selector, plan.call.SelectsEvents ns kind name selector := by
  have hcall := h.call_eq hplan
  have hwellFormed : plan.call.WellFormed := by
    refine Accessor.wellFormed_of_plan hplan ?_ ?_
    · have hkind : ResourceKind.events.Plain := ⟨.inl rfl, by decide, by decide⟩
      rwa [hcall]
    · rw [hcall]
      rintro _ ⟨⟩
  have hname := (h.exists_plan_iff.mp ⟨plan, hplan⟩).2
  refine ⟨_, ⟨by rw [hcall], by rw [hcall]; rfl, fun r hr => ?_, ?_⟩⟩
  · rw [hwellFormed.parameters?_request hr, hcall]
    rfl
  · exact (FieldSelector.read?_involvedObject_iff h.plain_kind).mpr hname.plainInSelectors

end ListsEvents

open FieldSelector in
/-- For every object that can be addressed, the list of its events is asked for with a selector that
is read as its kind and its name, and which keeps of the events of the namespace those that concern
it. A name that would be read in any other way is refused, and nothing is done. -/
theorem event_listings_cannot_be_widened (h : ListsEvents ns name accessor kind)
    (gate : AuthorizationGate) (ctx : RequestContext) (others : Collaborators σ κ)
    (w : World σ κ) :
    let run := (accessor.script gate ctx).run others w
    ((∃ plan, accessor.plan = .ok plan) ↔
      IsDnsLabel (Utf8.encode ns.toList) ∧ IsObjectName name) ∧
    (∀ plan, accessor.plan = .ok plan →
      (∀ client call, .perform client call ∈ run.actions → call = plan.call) ∧
      ∃ selector, plan.call.SelectsEvents ns kind name selector ∧
        ∀ events, select? selector events = some (events.filter (concerns kind name))) ∧
    ((Selectors.involvedObject kind name).fields.bind read? ≠ some (concerning kind name) →
      ∃ message, run.result = .error (.invalidRequest message) ∧ run.actions = [] ∧
        run.world = w) := by
  intro run
  refine ⟨h.exists_plan_iff, fun plan hplan => ⟨?_, ?_⟩, fun hread => ?_⟩
  · intro client call hcall
    rw [Script.actions_run] at hcall
    obtain ⟨e, he, hcall⟩ := List.mem_map.mp hcall
    have hcovers := (Accessor.stage_of_run gate ctx others w hplan).covers.1 e he
    rwa [hcall] at hcovers
  · obtain ⟨selector, hselects⟩ := h.exists_selector hplan
    exact ⟨selector, hselects, select?_of_read? hselects.read⟩
  · rw [ne_eq, read?_involvedObject_iff h.plain_kind] at hread
    cases hplan : accessor.plan with
    | ok plan =>
        exact absurd (h.exists_plan_iff.mp ⟨plan, hplan⟩).2.plainInSelectors hread
    | error f =>
        simp only [run, Accessor.script_of_error gate ctx hplan]
        exact ⟨f.message, rfl, rfl, rfl⟩

def Collaborators.agreeable : Collaborators Unit Unit where
  cancelled _ _ := false
  review _ _ := pure (.ok true)
  factory := ClientCache.detached fun _ id => pure (.ok ⟨id, ()⟩)
  perform _ _ := pure (.ok .null)

open FieldSelector in
/-- Of the events of two notebooks those of the one are selected, and no name selects both. -/
theorem events_of_one_notebook :
    let event (name : String) : Json :=
      .obj [("involvedObject", .obj [("kind", .str "Notebook"), ("name", .str name)])]
    let refused := Accessor.listNotebookEvents "team-a" "nb-1,involvedObject.name=nb-2"
    (∃ plan selector, (Accessor.listNotebookEvents "team-a" "nb-1").plan = .ok plan ∧
      plan.call.SelectsEvents "team-a" "Notebook" "nb-1" selector ∧
      select? selector [event "nb-1", event "nb-2"] = some [event "nb-1"]) ∧
    ∃ message, ((refused.script ⟨.strict, false⟩ ⟨⟨"alice"⟩, ⟨0⟩⟩).run .agreeable
      ⟨.empty {}, ()⟩).result = .error (.invalidRequest message) := by
  intro event refused
  constructor
  · obtain ⟨haccepted, hplan, -⟩ := event_listings_cannot_be_widened
      (.notebook : ListsEvents "team-a" "nb-1" _ _) ⟨.strict, false⟩ ⟨⟨"alice"⟩, ⟨0⟩⟩
      .agreeable ⟨.empty {}, ()⟩
    have hlabel : IsDnsLabel (Utf8.encode "team-a".toList) := isLabel_iff.mp (by decide)
    obtain ⟨plan, hself⟩ := haccepted.mpr ⟨hlabel, isObjectName_iff.mpr (by decide)⟩
    obtain ⟨-, selector, hselects, hselected⟩ := hplan plan hself
    exact ⟨plan, selector, hself, hselects, hselected _⟩
  · obtain ⟨-, -, hrefused⟩ := event_listings_cannot_be_widened
      (.notebook : ListsEvents "team-a" "nb-1,involvedObject.name=nb-2" _ _) ⟨.strict, false⟩
      ⟨⟨"alice"⟩, ⟨0⟩⟩ .agreeable ⟨.empty {}, ()⟩
    obtain ⟨message, hresult, -⟩ := hrefused (by decide)
    exact ⟨message, hresult⟩

end ClusterAccess
