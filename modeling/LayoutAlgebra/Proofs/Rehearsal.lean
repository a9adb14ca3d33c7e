import LayoutAlgebra.Proofs.Rehearsal.Mirror
import Mathlib.Algebra.BigOperators.Group.Finset.Piecewise
set_option autoImplicit false

/-!
Dry runs. A program that makes views and relates them does the same whether the views keep their records themselves or one
recording keeps them all: every step succeeds or fails alike, and in the end the recording has for each view exactly what
the view would hold.
-/
namespace LayoutAlgebra

namespace Act

def into (sink : Value) : Act → Act
  | .construct options => .construct { options with sink }
  | act => act

-- An act that makes a view, relates views that were made before, or gives a value a name. Whatever it is given refers to
-- nothing but views.
def Relates (s : Scene) : Act → Prop
  | .construct options =>
    (∀ p, options.parent = .view p → p < s.views.length) ∧ options.layoutMargins.standsAlone = true ∧
      options.config.standsAlone = true
  | .assign v _ value => v < s.views.length ∧ value.standsAlone = true
  | .within length low high sink =>
    sink = .none ∧ (∀ mark e v, length = .linear mark e → e.element = .view v → v < s.views.length) ∧
      length.standsAlone = true ∧ low.standsAlone = true ∧ high.standsAlone = true
  | .keep _ => True
  | _ => False

def runAll (sink : Value) (s : Scene) : List Act → List (Fallible Unit) × Scene
  | [] => ([], s)
  | act :: rest =>
    let done := (act.into sink).run s
    let later := runAll sink done.2 rest
    (done.1 :: later.1, later.2)

def Program (s : Scene) : List Act → Prop
  | [] => True
  | act :: rest => act.Relates s ∧ Program ((act.into .none).run s).2 rest

end Act

namespace Scene

variable {s live dry : Scene}

def stage : Scene := (Act.run .empty .makeRecording).2

theorem chosen_alike (rehearses : Rehearses live dry) (config : Value) (alone : config.standsAlone = true) :
    dry.configOrStandard config = live.configOrStandard config := by
  simp only [configOrStandard, current, rehearses.steady, rehearses.steadyToo,
    Surroundings.truth_alike dry.surroundings live.surroundings alone]

theorem chosen_alone (steady : s.renewals = []) (config settings : Value) (alone : config.standsAlone = true)
    (chosen : s.configOrStandard config = .ok settings) : settings.standsAlone = true := by
  obtain ⟨accepted, _, chosen⟩ := (Fallible.bind_ok_iff _ _ _).mp chosen
  split at chosen
  · exact Except.ok.inj chosen ▸ alone
  · rw [← Except.ok.inj chosen, current, steady]
    rfl

theorem new_view_plain (steady : s.renewals = []) (options : ViewOptions) (alone : options.config.standsAlone = true)
    (view : View) (made : s.newView { options with sink := .none } = .ok view) : view.Plain := by
  simp only [newView, Fallible.bind_ok_iff] at made
  obtain ⟨settings, chosen, margins, _, made⟩ := made
  have settled := chosen_alone steady options.config settings alone chosen
  split at made
  · rename_i mark c
    split at made
    · rw [← Except.ok.inj made]
      exact ⟨rfl, mark, c, rfl, settled⟩
    · obtain ⟨inset, _, made⟩ := (Fallible.bind_ok_iff _ _ _).mp made
      rw [← Except.ok.inj made]
      exact ⟨rfl, mark, c, rfl, settled⟩
  · cases made

theorem new_view_rehearsed (rehearses : Rehearses live dry) (options : ViewOptions)
    (margins : options.layoutMargins.standsAlone = true) (alone : options.config.standsAlone = true) :
    dry.newView { options with sink := .recording 0 } =
      (live.newView { options with sink := .none }).map View.rehearsed := by
  simp only [newView, chosen_alike rehearses _ alone,
    Surroundings.truth_alike dry.surroundings live.surroundings margins]
  cases live.configOrStandard options.config with
  | error failure => rfl
  | ok settings =>
      cases live.surroundings.truth options.layoutMargins with
      | error failure => rfl
      | ok given =>
          cases settings with
          | config mark c =>
              cases given with
              | true => rfl
              | false => cases inset : Value.uniformInsets c.defaultMargin <;> simp [inset] <;> rfl
          | _ => rfl

theorem attach_free (regular : Regular s) (p c : ViewId) (free : s.parent c = none) :
    s.attach p c = if c ∈ s.ancestors p then (.error (.cycle (.view c) (.view p)), s) else (.ok (), s.linked p c) := by
  have stays : s.detach c = (.ok (), s) := by simp only [detach, free]
  rcases attach_cases regular p c with ⟨around, refused⟩ | ⟨outside, ⟨_, linked⟩ | ⟨_, stopped, _⟩⟩
  · rw [if_pos around, refused]
  · rw [if_neg outside, linked, stays]
  · simp [stays] at stopped

theorem construct_rehearsed (rehearses : Rehearses live dry) (options : ViewOptions)
    (known : ∀ p, options.parent = .view p → p < live.views.length)
    (margins : options.layoutMargins.standsAlone = true) (alone : options.config.standsAlone = true) :
    InStep (silent (live.construct { options with sink := .none }))
      (silent (dry.construct { options with sink := .recording 0 })) := by
  have again := new_view_rehearsed rehearses options margins alone
  cases made : live.newView { options with sink := .none } with
  | error failure =>
      rw [made] at again
      simp only [construct, made, again, Except.map]
      exact ⟨rfl, rehearses⟩
  | ok view =>
      rw [made] at again
      have fresh := new_view_fresh live _ view made
      have grown := grown_rehearsed rehearses view fresh (new_view_plain rehearses.steady options alone view made)
      rw [construct_made live _ view made, construct_made dry _ view.rehearsed again, rehearsed_count rehearses]
      cases parent : options.parent with
      | none => exact ⟨rfl, grown⟩
      | view p =>
          have count := grown_count live view
          have free : (live.grown view).parent live.views.length = none :=
            ((grown_places live view fresh).parent _).trans (by simp [Scene.parent])
          have freeToo := ((rehearsed_places grown).parent live.views.length).trans free
          simp only [attach_free grown.regular p _ free, attach_free (rehearsed_regular grown) p _ freeToo,
            rehearsed_ancestors grown]
          by_cases around : live.views.length ∈ (live.grown view).ancestors p
          · simp only [if_pos around]
            exact ⟨rfl, rehearses⟩
          · simp only [if_neg around]
            have joined := linked_joined p _ free around (count ▸ Nat.lt_succ_of_lt (known p parent))
              (count ▸ Nat.lt_succ_self _)
            exact ⟨rfl, linked_rehearsed grown p _ (regular_linked grown.regular p _ joined)⟩
      | _ => exact ⟨rfl, rehearses⟩

theorem about_known (forest : Forest s) (v : ViewId) (known : v < s.views.length) (p : Pending Value)
    (about : p.About s (.view v)) : ∃ h < s.views.length, p.anchor = .view h := by
  obtain ⟨r, _, subject, anchored⟩ := about
  obtain ⟨h, around, anchor⟩ := anchors_around r p.anchor v subject anchored
  exact ⟨h, chain_bound forest v _ (ancestors_chain forest v) known h around, anchor⟩

theorem assign_rehearsed (rehearses : Rehearses live dry) (v : ViewId) (known : v < live.views.length)
    (accessor : Accessor) (value : Value) (alone : value.standsAlone = true) :
    InStep (live.assign v accessor value).silent (dry.assign v accessor value).silent := by
  obtain ⟨sink, sinkToo, mark, c, own, ownToo, settings⟩ := rehearsed_own rehearses v known
  have same := assigned_alike (rehearsed_meets rehearses) v mark c ownToo own settings accessor value alone
  rw [assign, assign, sink, sinkToo]
  apply submitted_rehearsed rehearses _ _ same
  intro pending compiled p member
  exact about_known rehearses.regular.forest v known p (assigned_about v accessor value pending compiled p member)

theorem within_silent (steady : s.renewals = []) (mark : Mark) (e : Expression) (low high : Value) :
    (s.within (.linear mark e) low high .none).silent =
      match s.surroundings.range (.linear mark e) low high with
      | .error failure => (.error failure, s)
      | .ok range =>
        (s.submitCompiled (s.sinkOf e.element) (s.compileAll .standardConfig (range.map (.relationship .new)))).silent := by
  have standard : s.current .standardConfig = .standardConfig := by simp [current, steady]
  unfold within
  cases s.surroundings.range (.linear mark e) low high with
  | error failure => rfl
  | ok range => simp only [activate, no_configuration, standard, Value.isNone, if_true]

theorem within_rehearsed (rehearses : Rehearses live dry) (length low high : Value)
    (known : ∀ mark e v, length = .linear mark e → e.element = .view v → v < live.views.length)
    (alone : length.standsAlone = true) (least : low.standsAlone = true) (most : high.standsAlone = true) :
    InStep (live.within length low high .none).silent (dry.within length low high .none).silent := by
  cases length with
  | linear mark e =>
      have ranges := Surroundings.range_alike dry.surroundings live.surroundings (.linear mark e) least most
      rw [within_silent rehearses.steady, within_silent rehearses.steadyToo, ranges]
      cases made : live.surroundings.range (.linear mark e) low high with
      | error failure => exact ⟨rfl, rehearses⟩
      | ok range =>
          have same := congrArg Logged.result (range_compiled_alike (rehearsed_meets rehearses) .standardConfig rfl
            live.surroundings _ low high alone range made)
          have about := range_about (s := live) live.surroundings .standardConfig low high mark e range made
          by_cases element : ∃ v, e.element = .view v
          · obtain ⟨v, element⟩ := element
            have inside := known mark e v rfl element
            obtain ⟨sink, sinkToo, _⟩ := rehearsed_own rehearses v inside
            simp only [element, sinkOf, sink, sinkToo]
            apply submitted_rehearsed rehearses _ _ same
            intro pending compiled p member
            exact about_known rehearses.regular.forest v inside p (element ▸ about pending compiled p member)
          · have none : ∀ s : Scene, s.sinkOf e.element = .none := by
              intro s
              cases here : e.element with
              | view v => exact absurd ⟨v, here⟩ element
              | _ => rfl
            simp only [none]
            apply stray_rehearsed rehearses _ _ same
            intro pending compiled p member
            exact about_other e.element p (about pending compiled p member) fun v here => element ⟨v, here⟩
  | _ => exact ⟨rfl, rehearses⟩

theorem act_rehearsed (rehearses : Rehearses live dry) (act : Act) (relates : act.Relates live) :
    InStep ((act.into .none).run live) ((act.into (.recording 0)).run dry) := by
  cases act with
  | construct options => exact construct_rehearsed rehearses options relates.1 relates.2.1 relates.2.2
  | assign v accessor value => exact assign_rehearsed rehearses v relates.1 accessor value relates.2
  | within length low high sink =>
      obtain ⟨rfl, known, alone, least, most⟩ := relates
      exact within_rehearsed rehearses length low high known alone least most
  | keep v =>
      refine ⟨rfl, ?_⟩
      simp only [Act.into, Act.run, keep, rehearses.serial]
      exact counted_rehearsed rehearses _
  | _ => exact relates.elim

-- Induction on the program: after every act the two scenes are in step again.
theorem program_rehearsed (rehearses : Rehearses live dry) (program : List Act) (proper : Act.Program live program) :
    (Act.runAll (.recording 0) dry program).1 = (Act.runAll .none live program).1 ∧
      Rehearses (Act.runAll .none live program).2 (Act.runAll (.recording 0) dry program).2 := by
  induction program generalizing live dry with
  | nil => exact ⟨rfl, rehearses⟩
  | cons act rest ih =>
      obtain ⟨done, after⟩ := act_rehearsed rehearses act proper.1
      obtain ⟨results, last⟩ := ih after proper.2
      exact ⟨congrArg₂ List.cons done results, last⟩

theorem stage_rehearses : Rehearses .empty stage where
  views := rfl
  serial := rfl
  steady := rfl
  steadyToo := rfl
  regular := regular_empty
  plain := by
    intro view member
    cases member
  recorded := ⟨.empty, rfl, fun _ => rfl, by
    intro entry member
    cases member⟩

theorem registrations_counted (count : Nat) (registrations : List (Value × Value))
    (anchors : ∀ entry ∈ registrations, ∃ v < count, entry.2 = .view v) :
    registrations.length =
      ∑ v ∈ Finset.range count, (registrations.filter fun entry => entry.2.identical (.view v)).length := by
  induction registrations with
  | nil => simp
  | cons entry rest ih =>
      obtain ⟨h, known, anchor⟩ := anchors entry (by simp)
      have here : ∀ v, ((entry :: rest).filter fun entry => entry.2.identical (.view v)).length =
          (if h = v then 1 else 0) + (rest.filter fun entry => entry.2.identical (.view v)).length := by
        intro v
        by_cases same : h = v <;> simp [anchor, Value.identical, same, Nat.add_comm]
      rw [List.length_cons, ih fun other member => anchors other (by simp [member])]
      simp only [here, Finset.sum_add_distrib, Finset.sum_ite_eq, Finset.mem_range, known, if_true]
      exact Nat.add_comm _ _

/-- A program that makes views and relates them, with values that refer to nothing a view or a recording holds, is run with
views that keep their own records and again with views that all keep theirs in one recording. It comes to the same results
step by step. The recording has for every view exactly the records that the view has in the other run, in their order, and
no more; the views of its own run hold nothing. -/
theorem dry_run_agrees (program : List Act) (proper : Act.Program .empty program) :
    let live := Act.runAll .none .empty program
    let dry := Act.runAll (.recording 0) stage program
    dry.1 = live.1 ∧ (∀ v, (dry.2.recording 0).recordsOn (.view v) = live.2.constraints v) ∧
      (dry.2.recording 0).registrations.length =
        ∑ v ∈ Finset.range live.2.views.length, (live.2.constraints v).length ∧
      ∀ v, dry.2.constraints v = [] := by
  intro live dry
  obtain ⟨results, rehearses⟩ := program_rehearsed stage_rehearses program proper
  obtain ⟨r, only, mirrors⟩ := rehearses.recorded
  have recording : dry.2.recording 0 = r := by rw [Scene.recording, only]; rfl
  refine ⟨results, fun v => recording ▸ mirrors.held v, ?_, fun v => ?_⟩
  · rw [recording, registrations_counted live.2.views.length r.registrations mirrors.anchors]
    refine Finset.sum_congr rfl fun v _ => ?_
    rw [← mirrors.held v, Recording.recordsOn, List.length_map]
  · rw [Scene.constraints, rehearses.views, List.getElem?_map]
    cases live.2.views[v]? <;> rfl

-- Two views that are related by accessors and by a range. Two steps fail: a length that is to be a line, and a view under
-- a configuration that is none.
def twoViews : List Act :=
  [.construct {}, .construct { parent := .view 0 },
    .assign 1 (.length .width) ((Accessor.length .width).read (.view 0)),
    .assign 1 (.length .height) ((Accessor.line .top).read (.view 0)),
    .within ((Accessor.length .height).read (.view 1)) (.int 20) (.int 10) .none,
    .construct { parent := .view 0, config := .int 5 },
    .assign 1 (.edges false) ((Accessor.edges true).read (.view 0))]

theorem two_views_agree :
    Act.Program .empty twoViews ∧
      (Act.runAll .none .empty twoViews).1.map Except.isOk = [true, true, true, false, true, false, true] ∧
      (Act.runAll (.recording 0) stage twoViews).1 = (Act.runAll .none .empty twoViews).1 ∧
      ((Act.runAll (.recording 0) stage twoViews).2.recording 0).recordsOn (.view 1) =
        (Act.runAll .none .empty twoViews).2.constraints 1 ∧
      ((Act.runAll .none .empty twoViews).2.constraints 1).length = 2 := by
  have proper : Act.Program .empty twoViews := by
    refine ⟨⟨?_, rfl, rfl⟩, ⟨?_, rfl, rfl⟩, ⟨?_, rfl⟩, ⟨?_, rfl⟩, ⟨rfl, ?_, rfl, rfl, rfl⟩, ⟨?_, rfl, rfl⟩, ⟨?_, rfl⟩, trivial⟩
    · rintro p ⟨⟩
    · rintro p ⟨⟩
      decide +kernel
    · decide +kernel
    · decide +kernel
    · rintro mark e v ⟨⟩ ⟨⟩
      decide +kernel
    · rintro p ⟨⟩
      decide +kernel
    · decide +kernel
  obtain ⟨results, held, _, _⟩ := dry_run_agrees twoViews proper
  exact ⟨proper, by decide +kernel, results, held 1, by decide +kernel⟩

end Scene

end LayoutAlgebra
