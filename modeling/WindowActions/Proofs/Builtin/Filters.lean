import WindowActions.Builtin.Filters
import WindowActions.Proofs.Selection.Twins

/-!
# What the builtin filters see

The rule of a builtin filter is for all clients, or it looks at the state of a client and at nothing
else, and only `focused` looks at the focus. So all of them respect equal states, and all but
`focused` respect states that differ in their focus.
-/

namespace WindowActions

/-- Two states that differ in their focus at most. -/
def ClientState.SameButFocus (state state' : ClientState) : Prop :=
  { state with focused := state'.focused } = state'

theorem ClientState.SameButFocus.congr {α : Type} {part : ClientState → α}
    (hpart : ∀ s focused, part { s with focused } = part s) {s s' : ClientState}
    (h : s.SameButFocus s') : part s = part s' := by
  rw [← hpart s s'.focused, h]

/-- The filter is one that the registration of a builtin filter makes from its value. -/
def Filter.IsBuiltin [PatternEngine] (f : Filter) : Prop :=
  ∃ entry ∈ builtinFilters, f.info.name = entry.name ∧ entry.setup f.info f.value = .ok f.rule

namespace FilterRule

/-- The rule looks at the states of clients only, and not at the focus unless that is said. -/
inductive Sees (focus : Prop) : FilterRule → Prop
  | everything : Sees focus .everything
  | state (test : ClientState → Bool)
      (blind : ¬ focus → ∀ s focused, test { s with focused } = test s) :
      Sees focus (.matching fun c => test c.state)

variable {focus : Prop} (info : FilterInfo) {value : Option Value} {rule : FilterRule}

theorem sees_flag (value : Option Value) {flag : ClientState → Bool}
    (h : flagSetup flag info value = .ok rule)
    (blind : ¬ focus → ∀ s focused, flag { s with focused } = flag s) : rule.Sees focus := by
  cases h
  exact .state flag blind

theorem sees_desktop (h : desktopSetup info value = .ok rule) : rule.Sees focus := by
  simp only [desktopSetup, bind, Except.bind] at h
  split at h
  case h_1 => cases h
  case h_2 =>
      split at h
      case h_1 desktop _ =>
          cases h
          exact .state (fun state => state.desktop == desktop) fun _ _ _ => rfl
      case h_2 => cases h

theorem sees_pattern [PatternEngine] {name : String} {part : ClientState → String}
    (h : patternSetup name part info value = .ok rule)
    (blind : ∀ s focused, part { s with focused } = part s) : rule.Sees focus := by
  simp only [patternSetup, bind, Except.bind] at h
  split at h
  case h_1 => cases h
  case h_2 =>
      split at h
      case h_1 test _ =>
          cases h
          refine .state (fun state => test (part state)) fun _ s focused => ?_
          rw [blind s focused]
      case h_2 => cases h

theorem sees_builtin [PatternEngine] {entry : FilterEntry} (hentry : entry ∈ builtinFilters)
    (h : entry.setup info value = .ok rule) : rule.Sees (entry.name = "focused") := by
  simp only [builtinFilters, List.mem_cons, List.not_mem_nil, or_false] at hentry
  rcases hentry with rfl | rfl | rfl | rfl | rfl | rfl | rfl | rfl
  · cases h
    exact .everything
  · exact sees_flag info value h fun _ _ _ => rfl
  · exact sees_flag info value h fun hnot => absurd rfl hnot
  · exact sees_flag info value h fun _ _ _ => rfl
  · exact sees_flag info value h fun _ _ _ => rfl
  · exact sees_desktop info h
  · exact sees_pattern info h fun _ _ => rfl
  · exact sees_pattern info h fun _ _ => rfl

end FilterRule

namespace Filter.IsBuiltin

variable [PatternEngine] {f : Filter}

theorem sees (h : f.IsBuiltin) : f.rule.Sees (f.info.name = "focused") := by
  obtain ⟨entry, hentry, hname, hsetup⟩ := h
  rw [hname]
  exact FilterRule.sees_builtin f.info hentry hsetup

theorem respects (h : f.IsBuiltin) : f.Respects Eq := by
  intro test htest c c' _ _ hstate
  have hsees := h.sees
  rw [htest] at hsees
  cases hsees
  exact congrArg _ hstate

/-- Only one builtin filter looks at the focus. -/
theorem respects_sameButFocus (h : f.IsBuiltin) (hname : f.info.name ≠ "focused") :
    f.Respects ClientState.SameButFocus := by
  intro test htest c c' _ _ hstate
  have hsees := h.sees
  rw [htest] at hsees
  cases hsees with
  | state test blind => exact hstate.congr (blind hname)

end Filter.IsBuiltin

end WindowActions
