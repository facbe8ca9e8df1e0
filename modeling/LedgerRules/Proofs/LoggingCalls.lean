import LedgerRules.Logging.Setup
import LedgerRules.Proofs.Placeholders

/-! What a history of calls leaves of the package logger. Between calls there is one handler of ours
and no report is passed on, or there is none and all are. A call that is refused for its level leaves
everything as it was. One that is refused for its layout has taken an earlier handler away by then,
and reports reach nobody any more. -/

namespace LedgerRules.Logging

namespace State

def ours (s : State) : List Handler := s.handlers.filter (·.isOurs)

def others (s : State) : List Handler := s.handlers.filter (!·.isOurs)

def Settled (s : State) : Prop :=
  (∃ h, s.ours = [h]) ∧ s.propagate = false ∨ s.ours = [] ∧ s.propagate = true

theorem settled_initial : initial.Settled := .inr ⟨rfl, rfl⟩

variable (s : State) (level : Level) (propagate : Bool)

theorem ours_alone : (State.mk s.others level propagate).ours = [] := by
  simp [ours, others, List.filter_filter]

theorem others_alone : (State.mk s.others level propagate).others = s.others := by
  simp [others, List.filter_filter]

theorem ours_joined (name layout : String) :
    (State.mk (s.others ++ [.stream name layout]) level propagate).ours = [.stream name layout] := by
  simp [ours, others, List.filter_filter, Handler.isOurs]

theorem others_joined (name layout : String) :
    (State.mk (s.others ++ [.stream name layout]) level propagate).others = s.others := by
  simp [others, List.filter_filter, Handler.isOurs]

theorem others_eq_handlers {s : State} (h : s.ours = []) : s.others = s.handlers := by
  have hnone : ∀ x ∈ s.handlers, x.isOurs = false := by simpa [ours] using h
  exact List.filter_eq_self.mpr fun x hx => by simp [hnone x hx]

end State

def layoutOf : Option String → String
  | none => defaultLayout
  | some "" => defaultLayout
  | some text => text

theorem isLayout_default : isLayout defaultLayout.toList = true := by decide +kernel

theorem refused_iff {layout : Option String} : isLayout (layoutOf layout).toList = false ↔
    ∃ text, layout = some text ∧ text ≠ "" ∧ ¬HasPlaceholder text.toList := by
  simp only [← isLayout_iff, Bool.not_eq_true]
  unfold layoutOf
  split
  next => simp [isLayout_default]
  next => simp [isLayout_default]
  next text hne =>
    have htext : text ≠ "" := hne
    simp [htext]

inductive Call
  | configure (env : Environment) (level : LevelRequest) (layout : Option String) (stream : String)
  | reset

namespace Call

def apply : Call → State → Except ConfigureFault (Option Handler) × State
  | configure env level layout stream, s =>
    let (answer, after) := Logging.configure env level layout stream s
    (answer.map some, after)
  | reset, s => (.ok none, s.reset)

def after (c : Call) (s : State) : State := (c.apply s).2

/-- The level can be read, and a layout is given that has no placeholder. -/
def Misshaped : Call → Prop
  | configure env level layout _ =>
    (∃ l, resolveLevel env level = .ok l) ∧
      ∃ text, layout = some text ∧ text ≠ "" ∧ ¬HasPlaceholder text.toList
  | reset => False

theorem apply_reset (s : State) : reset.apply s = (.ok none, ⟨s.others, .number 0, true⟩) := rfl

variable {env : Environment} {request : LevelRequest} {layout : Option String}

theorem apply_unread {f : LevelFault} (h : resolveLevel env request = .error f)
    (layout : Option String) (stream : String) (s : State) :
    (configure env request layout stream).apply s = (.error (.level f), s) := by
  simp only [apply, Logging.configure, h]
  rfl

theorem apply_misshaped {level : Level} (hlevel : resolveLevel env request = .ok level)
    (h : isLayout (layoutOf layout).toList = false) (stream : String) (s : State) :
    (configure env request layout stream).apply s =
      (.error (.layout (layoutOf layout)), ⟨s.others, s.level, s.propagate⟩) := by
  unfold layoutOf at h ⊢
  simp only [apply, Logging.configure, hlevel]
  split at h <;> simp only [h] <;> rfl

theorem apply_fine {level : Level} (hlevel : resolveLevel env request = .ok level)
    (h : isLayout (layoutOf layout).toList = true) (stream : String) (s : State) :
    (configure env request layout stream).apply s =
      (.ok (some (.stream stream (layoutOf layout))),
        ⟨s.others ++ [.stream stream (layoutOf layout)], level, false⟩) := by
  unfold layoutOf at h ⊢
  simp only [apply, Logging.configure, hlevel]
  split at h <;> simp only [h] <;> rfl

structure Clean (c : Call) (s : State) : Prop where
  settled : (c.after s).Settled
  others : (c.after s).others = s.others
  failed : ∀ f, (c.apply s).1 = .error f → c.after s = s
  returned : ∀ h, (c.apply s).1 = .ok (some h) → (c.after s).ours = [h]

theorem clean_of_fine {c : Call} {s after : State} {answer : Option Handler}
    (h : c.apply s = (.ok answer, after)) (hothers : after.others = s.others)
    (hours : after.ours = answer.toList) (hpropagate : after.propagate = answer.isNone) :
    c.Clean s := by
  have hafter : c.after s = after := by rw [Call.after, h]
  refine ⟨?_, ?_, ?_, ?_⟩
  · rw [hafter, State.Settled, hours, hpropagate]
    cases answer <;> simp
  · rw [hafter, hothers]
  · simp [h]
  · intro handler hanswer
    rw [h] at hanswer
    obtain rfl := Except.ok.inj hanswer
    rw [hafter, hours, Option.toList_some]

theorem clean_of_kept {c : Call} {s : State} {f : ConfigureFault} (hs : s.Settled)
    (h : c.apply s = (.error f, s)) : c.Clean s := by
  have hafter : c.after s = s := by rw [Call.after, h]
  exact ⟨by rwa [hafter], by rw [hafter], fun _ _ => hafter, by simp [h]⟩

theorem not_clean_of_misshaped {c : Call} {s : State} (hs : s.Settled) (hours : s.ours ≠ [])
    {f : ConfigureFault} (h : c.apply s = (.error f, ⟨s.others, s.level, s.propagate⟩)) :
    ¬c.Clean s := by
  intro hclean
  have hsettled := hclean.settled
  rw [Call.after, h, State.Settled, State.ours_alone] at hsettled
  rcases hs with ⟨-, hsilent⟩ | ⟨hnone, -⟩
  · simp [hsilent] at hsettled
  · exact hours hnone

theorem clean_iff {c : Call} {s : State} (hs : s.Settled) :
    c.Clean s ↔ (c.Misshaped → s.ours = []) := by
  cases c with
  | reset =>
    have hclean := clean_of_fine (apply_reset s) (s.others_alone _ _) (s.ours_alone _ _) rfl
    exact iff_of_true hclean False.elim
  | configure env request layout stream =>
    cases hlevel : resolveLevel env request with
    | error f =>
      have hclean := clean_of_kept hs (apply_unread hlevel layout stream s)
      exact iff_of_true hclean (by simp [Misshaped, hlevel])
    | ok level =>
      cases hlayout : isLayout (layoutOf layout).toList with
      | true =>
        have hclean := clean_of_fine (apply_fine hlevel hlayout stream s)
          (s.others_joined _ _ _ _) (s.ours_joined _ _ _ _) rfl
        exact iff_of_true hclean (by simp [Misshaped, ← refused_iff, hlayout])
      | false =>
        have happly := apply_misshaped hlevel hlayout stream s
        have hmisshaped : (configure env request layout stream).Misshaped :=
          ⟨⟨_, hlevel⟩, refused_iff.mp hlayout⟩
        constructor
        · intro hclean _
          exact Classical.not_not.mp fun hours =>
            not_clean_of_misshaped hs hours happly hclean
        · intro hours
          rw [State.others_eq_handlers (hours hmisshaped)] at happly
          exact clean_of_kept hs happly

end Call

/-- Something holds of every call of a history and of the logger it comes to. -/
def Throughout (P : Call → State → Prop) : List Call → State → Prop
  | [], _ => True
  | c :: cs, s => P c s ∧ Throughout P cs (c.after s)

theorem clean_throughout_iff {calls : List Call} {s : State} (hs : s.Settled) :
    Throughout Call.Clean calls s ↔
      Throughout (fun c s => c.Misshaped → s.ours = []) calls s := by
  induction calls generalizing s with
  | nil => rfl
  | cons c calls ih =>
    rw [Throughout, Throughout, Call.clean_iff hs]
    refine and_congr_right fun h => ?_
    exact ih ((Call.clean_iff hs).mpr h).settled

/-- However the package logger has been configured and reset, each call was all or nothing, if no
layout without a placeholder was asked for while a handler of ours was there; and only then. -/
theorem histories_clean_iff (calls : List Call) :
    Throughout Call.Clean calls .initial ↔
      Throughout (fun c s => c.Misshaped → s.ours = []) calls .initial :=
  clean_throughout_iff State.settled_initial

theorem plain_layout_silences :
    let s := (Call.configure [] .absent none "stderr").after .initial
    let bad : Call := .configure [] (.text "DEBUG") (some "plain") "stderr"
    (bad.apply s).1 = .error (.layout "plain") ∧
      bad.after s = ⟨[.silent], .number 20, false⟩ ∧
      ¬bad.Clean s := by
  intro s bad
  have hs : s = ⟨[.silent, .stream "stderr" defaultLayout], .number 20, false⟩ := by decide +kernel
  have hbad : bad.apply s = (.error (.layout "plain"), ⟨[.silent], .number 20, false⟩) := by
    rw [hs]
    have hlevel : resolveLevel [] (.text "DEBUG") = .ok (.number 10) := by rfl
    exact Call.apply_misshaped hlevel (by decide +kernel) _ _
  refine ⟨by rw [hbad], by rw [Call.after, hbad], fun hclean => ?_⟩
  have hkept := hclean.failed _ (congrArg Prod.fst hbad)
  rw [Call.after, hbad, hs] at hkept
  cases hkept

end LedgerRules.Logging
