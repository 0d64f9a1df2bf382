import DataGrid.Request.Basic

/-!
# DataGrid.Proofs.Request.Layout -- the same conditions in another layout

A request can say the same in several ways: groups can stand in the filter or with the additional
filters, in any order and more than once, conditions can do so within their group, and groups
without conditions ask for nothing. `Request.Rearranged` is any number of such changes.

What stays is which groups of conditions there are, each taken as a set (`SameGroups`): every
group that has a condition has a counterpart with the same conditions.
-/

namespace DataGrid

/-! ## Changes of the layout -/

/-- One change that leaves groups asking for the same. -/
inductive Regrouped : List OrGroup → List OrGroup → Prop where
  /-- Groups change places. -/
  | permuted {groups groups' : List OrGroup} (h : groups.Perm groups') : Regrouped groups groups'
  /-- A group is said once more. -/
  | repeated (before after : List OrGroup) {group : OrGroup} (h : group ∈ before ++ after) :
    Regrouped (before ++ after) (before ++ group :: after)
  /-- A group without conditions is put in. -/
  | padded (before after : List OrGroup) : Regrouped (before ++ after) (before ++ [] :: after)
  /-- The conditions of a group change places. -/
  | permutedWithin (before after : List OrGroup) {group group' : OrGroup}
      (h : group.Perm group') :
    Regrouped (before ++ group :: after) (before ++ group' :: after)
  /-- A condition is said once more in its group. -/
  | repeatedWithin (before after : List OrGroup) (front back : OrGroup) {condition : Condition}
      (h : condition ∈ front ++ back) :
    Regrouped (before ++ (front ++ back) :: after) (before ++ (front ++ condition :: back) :: after)

/-- Changes of the layout, one after the other. -/
inductive Request.Rearranged (r : Request) : Request → Prop where
  | unchanged : Rearranged r r
  | filter {s : Request} {groups : List OrGroup} (h : Rearranged r s)
      (change : Regrouped s.filter groups) : Rearranged r { s with filter := groups }
  | additional {s : Request} {groups : List OrGroup} (h : Rearranged r s)
      (change : Regrouped s.additionalFilters groups) :
    Rearranged r { s with additionalFilters := groups }
  /-- The additional filters are appended to the filter. -/
  | gathered {s : Request} (h : Rearranged r s) :
    Rearranged r { s with filter := s.filter ++ s.additionalFilters, additionalFilters := [] }

/-! ## Groups as sets of conditions -/

/-- Every group that has a condition has a counterpart with the same conditions. -/
def CoveredBy (groups groups' : List OrGroup) : Prop :=
  ∀ group ∈ groups, group ≠ [] →
    ∃ group' ∈ groups', ∀ condition, condition ∈ group' ↔ condition ∈ group

theorem CoveredBy.of_subset {groups groups' : List OrGroup}
    (h : ∀ group ∈ groups, group ∈ groups') : CoveredBy groups groups' :=
  fun group hgroup _ => ⟨group, h group hgroup, fun _ => Iff.rfl⟩

theorem CoveredBy.trans {first second third : List OrGroup} (h : CoveredBy first second)
    (h' : CoveredBy second third) : CoveredBy first third := by
  intro group hgroup hne
  obtain ⟨group', hgroup', hsame⟩ := h group hgroup hne
  obtain ⟨condition, hcondition⟩ := List.exists_mem_of_ne_nil group hne
  obtain ⟨group'', hgroup'', hsame'⟩ :=
    h' group' hgroup' (List.ne_nil_of_mem ((hsame condition).mpr hcondition))
  exact ⟨group'', hgroup'', fun condition => (hsame' condition).trans (hsame condition)⟩

theorem CoveredBy.append {before before' after after' : List OrGroup}
    (h : CoveredBy before before') (h' : CoveredBy after after') :
    CoveredBy (before ++ after) (before' ++ after') := by
  intro group hgroup hne
  rcases List.mem_append.mp hgroup with hgroup | hgroup
  · obtain ⟨group', hgroup', hsame⟩ := h group hgroup hne
    exact ⟨group', List.mem_append_left _ hgroup', hsame⟩
  · obtain ⟨group', hgroup', hsame⟩ := h' group hgroup hne
    exact ⟨group', List.mem_append_right _ hgroup', hsame⟩

theorem CoveredBy.singleton {group group' : OrGroup}
    (h : ∀ condition, condition ∈ group' ↔ condition ∈ group) : CoveredBy [group] [group'] := by
  intro other hother _
  obtain rfl := List.mem_singleton.mp hother
  exact ⟨group', List.mem_singleton_self group', h⟩

/-- The same groups of conditions, each taken as a set. -/
structure SameGroups (groups groups' : List OrGroup) : Prop where
  covered : CoveredBy groups groups'
  covers : CoveredBy groups' groups

namespace SameGroups

variable {groups groups' : List OrGroup}

theorem refl (groups : List OrGroup) : SameGroups groups groups :=
  ⟨.of_subset fun _ h => h, .of_subset fun _ h => h⟩

theorem symm (h : SameGroups groups groups') : SameGroups groups' groups := ⟨h.covers, h.covered⟩

theorem trans {groups'' : List OrGroup} (h : SameGroups groups groups')
    (h' : SameGroups groups' groups'') : SameGroups groups groups'' :=
  ⟨h.covered.trans h'.covered, h'.covers.trans h.covers⟩

theorem append {others others' : List OrGroup} (h : SameGroups groups groups')
    (h' : SameGroups others others') : SameGroups (groups ++ others) (groups' ++ others') :=
  ⟨h.covered.append h'.covered, h.covers.append h'.covers⟩

/-- One group in place of another with the same conditions. -/
theorem replace (before after : List OrGroup) {group group' : OrGroup}
    (h : ∀ condition, condition ∈ group' ↔ condition ∈ group) :
    SameGroups (before ++ group :: after) (before ++ group' :: after) :=
  (refl before).append
    (append ⟨.singleton h, .singleton fun condition => (h condition).symm⟩ (refl after))

/-- What holds of some condition of every group that has any, does so in both. -/
theorem forall_exists (h : SameGroups groups groups') {P : Condition → Prop}
    (hall : ∀ group ∈ groups, group ≠ [] → ∃ condition ∈ group, P condition) :
    ∀ group ∈ groups', group ≠ [] → ∃ condition ∈ group, P condition := by
  intro group' hgroup' hne
  obtain ⟨group, hgroup, hsame⟩ := h.covers group' hgroup' hne
  obtain ⟨first, hfirst⟩ := List.exists_mem_of_ne_nil group' hne
  obtain ⟨condition, hcondition, hP⟩ :=
    hall group hgroup (List.ne_nil_of_mem ((hsame first).mpr hfirst))
  exact ⟨condition, (hsame condition).mp hcondition, hP⟩

/-- Both have the same conditions. -/
theorem mem_flatten (h : SameGroups groups groups') {condition : Condition} :
    condition ∈ groups.flatten ↔ condition ∈ groups'.flatten := by
  have hcovered : ∀ {groups groups' : List OrGroup}, CoveredBy groups groups' →
      condition ∈ groups.flatten → condition ∈ groups'.flatten := by
    intro groups groups' h hmem
    obtain ⟨group, hgroup, hcondition⟩ := List.mem_flatten.mp hmem
    obtain ⟨group', hgroup', hsame⟩ := h group hgroup (List.ne_nil_of_mem hcondition)
    exact List.mem_flatten.mpr ⟨group', hgroup', (hsame condition).mpr hcondition⟩
  exact ⟨hcovered h.covered, hcovered h.covers⟩

end SameGroups

/-! ## Changes keep the groups -/

theorem Regrouped.sameGroups {groups groups' : List OrGroup} (h : Regrouped groups groups') :
    SameGroups groups groups' := by
  cases h with
  | permuted h => exact ⟨.of_subset fun _ => h.mem_iff.mp, .of_subset fun _ => h.mem_iff.mpr⟩
  | repeated before after h =>
    refine ⟨.of_subset fun group hgroup => ?_, .of_subset fun other hother => ?_⟩
    · exact (List.sublist_cons_self _ after).append_left before |>.subset hgroup
    · rcases List.mem_append.mp hother with hother | hother
      · exact List.mem_append_left _ hother
      · rcases List.mem_cons.mp hother with rfl | hother
        · exact h
        · exact List.mem_append_right _ hother
  | padded before after =>
    refine ⟨.of_subset fun group hgroup => ?_, fun group hgroup hne => ?_⟩
    · exact (List.sublist_cons_self _ after).append_left before |>.subset hgroup
    · refine ⟨group, ?_, fun _ => Iff.rfl⟩
      rcases List.mem_append.mp hgroup with hgroup | hgroup
      · exact List.mem_append_left _ hgroup
      · exact List.mem_append_right _ ((List.mem_cons.mp hgroup).resolve_left hne)
  | permutedWithin before after h =>
    exact .replace before after fun _ => h.mem_iff.symm
  | repeatedWithin before after front back h =>
    refine .replace before after fun condition => ?_
    simp only [List.mem_append, List.mem_cons] at h ⊢
    constructor
    · rintro (hfront | rfl | hback)
      · exact .inl hfront
      · exact h
      · exact .inr hback
    · rintro (hfront | hback)
      · exact .inl hfront
      · exact .inr (.inr hback)

namespace Request

/-- The groups of a request, wherever they stand. -/
def groups (r : Request) : List OrGroup := r.filter ++ r.additionalFilters

/-- The requests differ in the layout of their groups alone. -/
structure SameDemands (r r' : Request) : Prop where
  groups : SameGroups r.groups r'.groups
  rest : r' = { r with filter := r'.filter, additionalFilters := r'.additionalFilters }

/-- By induction on the changes. -/
theorem Rearranged.sameDemands {r r' : Request} (h : r.Rearranged r') : r.SameDemands r' := by
  induction h with
  | unchanged => exact ⟨.refl _, rfl⟩
  | filter _ change ih =>
    exact ⟨ih.groups.trans (change.sameGroups.append (.refl _)), by rw [ih.rest]⟩
  | additional _ change ih =>
    exact ⟨ih.groups.trans ((SameGroups.refl _).append change.sameGroups), by rw [ih.rest]⟩
  | @gathered s _ ih =>
    refine ⟨ih.groups.trans ?_, by rw [ih.rest]⟩
    show SameGroups (s.filter ++ s.additionalFilters) ((s.filter ++ s.additionalFilters) ++ [])
    rw [List.append_nil]
    exact .refl _

variable {r r' : Request}

theorem SameDemands.symm (h : r.SameDemands r') : r'.SameDemands r :=
  ⟨h.groups.symm, by rw [h.rest]⟩

theorem SameDemands.hasFilter (h : r.SameDemands r') : r.hasFilter = r'.hasFilter := by
  have hany : ∀ {groups groups' : List OrGroup}, CoveredBy groups groups' →
      (groups.any fun group => !group.isEmpty) = true →
        (groups'.any fun group => !group.isEmpty) = true := by
    intro groups groups' h hany
    obtain ⟨group, hgroup, hfilled⟩ := List.any_eq_true.mp hany
    have hne : group ≠ [] := by simpa using hfilled
    obtain ⟨group', hgroup', hsame⟩ := h group hgroup hne
    obtain ⟨condition, hcondition⟩ := List.exists_mem_of_ne_nil group hne
    have hne' := List.ne_nil_of_mem ((hsame condition).mpr hcondition)
    exact List.any_eq_true.mpr ⟨group', hgroup', by simpa using hne'⟩
  exact Bool.eq_iff_iff.mpr ⟨hany h.groups.covered, hany h.groups.covers⟩

end Request
end DataGrid
