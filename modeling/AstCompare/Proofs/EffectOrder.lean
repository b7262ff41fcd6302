import AstCompare.Proofs.Leftovers

/-!
# The order of effects in a comparison

A comparison has a script: the calls it makes if nothing fails. A call that fails ends it, and its
failure is the one that is reported. So every run makes an initial part of its script, or all of it,
and all but the last of those calls have succeeded. What is said here about the order of effects is
read off from this: a call that comes later in the script than another one is made only if the other
one has been made and has succeeded.

## The path of the comparison picture

The script saves at this path at its very end. It does not follow that nothing is there before. The
pictures and graph texts of the sections are written through paths of their own, and such a path may
lead to the same place, by a link or by slashes in the run id.

## Main definitions

* `Call.failure?`: the failure with which a reply ends the comparison.
* `Plan.Follows`: a run makes the calls of a list in order, until one of them fails.
* `Comparison.script`: the calls of a comparison that does not fail.

## Main results

* `Comparison.exists_follows_plan`: every comparison follows its script.
* `Comparison.effects_in_order`: what is done before what, and what a failure leaves behind.
-/

namespace AstCompare

/-! ## Calls that fail -/

/-- The failure with which this reply to a call ends a comparison, if it does. -/
def Call.failure? : (c : Call) → c.Reply → Option Failure
  | .readText p, Except.error e => some (.unreadableInput p (DiskError.message e))
  | .createDirAll p, Except.error e => some (.uncreatableOutput p (DiskError.message e))
  | .remove p, Except.error e =>
    some (.operation "remove stale comparison" p (DiskError.message e))
  | .writeText p _, Except.error e => some (.operation "write DOT source" p (DiskError.message e))
  | .render r, Except.error e => some (.backend ("render " ++ r.output) (Failure.causes e))
  | .load p, Except.error e => some (.backend ("unreadable image " ++ p) [e])
  | .save p _, Except.error e => some (.backend ("write image " ++ p) [e])
  | _, _ => none

/-- The call writes a graph text, has a picture drawn or loads one. -/
def Call.draws : Call → Bool
  | writeText _ _ | render _ | load _ => true
  | _ => false

/-- The failure with which a call of a run ends it, if it does. -/
def Moment.failure? (h : Host) (m : Moment) : Option Failure :=
  m.call.failure? (h.perform m.past m.call m.disk).1

theorem Call.precedesRemoval_of_draws {c : Call} {reply : c.Reply} {f : Failure}
    (hc : c.draws = true) (hf : c.failure? reply = some f) : f.precedesRemoval = false := by
  cases c with
  | writeText | render | load =>
    cases reply with
    | error e =>
      cases hf
      rfl
    | ok x => cases hf
  | _ => cases hc

namespace Plan

variable {α β : Type} {h : Host} {past : List Call} {d : Disk} {plan : Plan (Except Failure β)}
  {c : Call} {cs pre post : List Call} {m : Moment} {f : Failure}

theorem calls_runFrom (h : Host) (plan : Plan α) (past : List Call) (d : Disk) :
    (plan.runFrom h past d).calls = past ++ (plan.moments h past d).map Moment.call := by
  induction plan generalizing past d with
  | done a => simp [runFrom, moments]
  | call c next ih => simp [runFrom, moments, ih]

/-- The run makes calls of the list from its beginning on. One that fails is the last one, and its
failure is the result. If none fails, all of them are made, and there is a result. -/
structure Follows (h : Host) (past : List Call) (d : Disk) (plan : Plan (Except Failure β))
    (cs : List Call) : Prop where
  calls : (plan.moments h past d).map Moment.call <+: cs
  stops : ∀ earlier m later f, plan.moments h past d = earlier ++ m :: later →
    m.failure? h = some f → later = [] ∧ (plan.runFrom h past d).result = .error f
  completes : (∀ m ∈ plan.moments h past d, m.failure? h = none) →
    (plan.moments h past d).map Moment.call = cs ∧ ∃ b, (plan.runFrom h past d).result = .ok b

/-- A call that does not fail in front of a script. -/
theorem Follows.cons {past' : List Call} {d' : Disk} {plan' : Plan (Except Failure β)}
    (hf : Follows h past' d' plan' cs) (hrun : plan.runFrom h past d = plan'.runFrom h past' d')
    (hmoments : plan.moments h past d = ⟨past, d, c⟩ :: plan'.moments h past' d')
    (hc : c.failure? (h.perform past c d).1 = none) : Follows h past d plan (c :: cs) := by
  constructor
  · rw [hmoments, List.map_cons]
    exact List.cons_prefix_cons.mpr ⟨rfl, hf.calls⟩
  · intro earlier m later f hsplit hfail
    rw [hmoments] at hsplit
    obtain ⟨rfl, hrest⟩ | ⟨before, rfl, hrest⟩ := List.cons_eq_append_iff.mp hsplit
    · obtain ⟨rfl, -⟩ := List.cons.inj hrest
      cases hc.symm.trans hfail
    · rw [hrun]
      exact hf.stops before m later f hrest hfail
  · intro hall
    rw [hmoments] at hall ⊢
    obtain ⟨hcalls, hresult⟩ := hf.completes fun m hm => hall m (List.mem_cons_of_mem _ hm)
    rw [List.map_cons, hcalls, hrun]
    exact ⟨rfl, hresult⟩

/-- A call that must succeed in front of a script. -/
theorem follows_orFail {ε : Type} (v : c.Reply → Except ε α) {fail : ε → Failure}
    {next : α → Plan (Except Failure β)}
    (hv : ∀ reply, c.failure? reply =
      match v reply with
      | .error e => some (fail e)
      | .ok _ => none)
    (hnext : ∀ x, v (h.perform past c d).1 = .ok x →
      Follows h (past ++ [c]) (h.perform past c d).2 (next x) cs) :
    Follows h past d (.call c fun reply => Comparison.orFail fail (v reply) next) (c :: cs) := by
  have hrun := (Reaches.call h c (fun reply => Comparison.orFail fail (v reply) next) past d).run
  have hv := hv (h.perform past c d).1
  cases hreply : v (h.perform past c d).1 with
  | error e =>
    -- the plan is done, so this call is the only one
    rw [hreply] at hrun hv
    have hmoments : moments h past d (.call c fun reply => Comparison.orFail fail (v reply) next) =
        [⟨past, d, c⟩] := by
      rw [moments, hreply]
      rfl
    refine ⟨by simp [hmoments], fun earlier m later f hsplit hfail => ?_, fun hall => ?_⟩
    · rw [hmoments] at hsplit
      obtain ⟨rfl, hrest⟩ | ⟨before, -, hrest⟩ := List.cons_eq_append_iff.mp hsplit
      · obtain ⟨rfl, rfl⟩ := List.cons.inj hrest
        rw [hrun]
        exact ⟨rfl, congrArg Except.error (Option.some.inj (hv.symm.trans hfail))⟩
      · simp at hrest
    · cases hv.symm.trans (hall ⟨past, d, c⟩ (hmoments ▸ List.mem_singleton_self _))
  | ok x =>
    rw [hreply] at hrun hv
    exact (hnext x hreply).cons hrun (by rw [moments, hreply]; rfl) hv

theorem follows_done (b : β) : Follows h past d (.done (.ok b)) [] := by
  refine ⟨List.nil_prefix, fun earlier m later f hsplit => ?_, fun _ => ⟨rfl, b, rfl⟩⟩
  simp [moments] at hsplit

namespace Follows

/-- A call that another one comes after has succeeded. -/
theorem failure?_eq_none (hf : Follows h past d plan cs) {earlier later : List Moment}
    (hsplit : plan.moments h past d = earlier ++ m :: later) (hlater : later ≠ []) :
    m.failure? h = none := by
  cases hfail : m.failure? h with
  | none => rfl
  | some f => exact absurd (hf.stops earlier m later f hsplit hfail).1 hlater

theorem failure?_of_mem (hf : Follows h past d plan cs) {earlier later : List Moment} {m' : Moment}
    (hsplit : plan.moments h past d = earlier ++ m :: later) (hm' : m' ∈ earlier) :
    m'.failure? h = none := by
  obtain ⟨before, after, rfl⟩ := List.append_of_mem hm'
  rw [List.append_assoc, List.cons_append] at hsplit
  exact hf.failure?_eq_none hsplit (by simp)

/-- A run that has not come to a call has made those before it only, and one that has come to it has
made them all. -/
theorem calls_cases (hf : Follows h past d plan (pre ++ c :: post)) :
    (plan.moments h past d).map Moment.call <+: pre ∨
      ∃ earlier m later, plan.moments h past d = earlier ++ m :: later ∧
        earlier.map Moment.call = pre ∧ m.call = c ∧ later.map Moment.call <+: post := by
  obtain ⟨rest, hrest⟩ := hf.calls
  obtain ⟨missing, hpre, -⟩ | ⟨more, hcalls, hpost⟩ := List.append_eq_append_iff.mp hrest
  · exact .inl ⟨missing, hpre.symm⟩
  · cases more with
    | nil => exact .inl ⟨[], by simpa using hcalls⟩
    | cons c' more =>
      obtain ⟨rfl, rfl⟩ := List.cons.inj hpost
      obtain ⟨earlier, tail, hsplit, hearlier, htail⟩ := List.map_eq_append_iff.mp hcalls
      obtain ⟨m, later, rfl, hm, hlater⟩ := List.map_eq_cons_iff.mp htail
      exact .inr ⟨earlier, m, later, hsplit, hearlier, hm, hlater ▸ List.prefix_append _ _⟩

/-- Where a call is made that the script has only once: after the calls before it, and before those
after it. -/
theorem exists_split (hf : Follows h past d plan (pre ++ c :: post)) (hpre : c ∉ pre)
    (hpost : c ∉ post) (hm : m ∈ plan.moments h past d) (hc : m.call = c) :
    ∃ earlier later, plan.moments h past d = earlier ++ m :: later ∧
      earlier.map Moment.call = pre ∧ later.map Moment.call <+: post := by
  obtain hcalls | ⟨earlier, m', later, hsplit, hearlier, -, hlater⟩ := hf.calls_cases
  · exact absurd (hcalls.subset (hc ▸ List.mem_map_of_mem hm)) hpre
  · rw [hsplit, List.mem_append, List.mem_cons] at hm
    obtain hm | rfl | hm := hm
    · exact absurd (hearlier ▸ hc ▸ List.mem_map_of_mem hm) hpre
    · exact ⟨earlier, later, hsplit, hearlier, hlater⟩
    · exact absurd (hlater.subset (hc ▸ List.mem_map_of_mem hm)) hpost

end Follows

end Plan

/-! ## The script -/

namespace Comparison

variable {h : Host} {past : List Call} {d : Disk} {j : Job} {a : Analysis} {s : Section}
  {f : Failure}

/-- The call that keeps the graph text of a section, if that is wanted. -/
def keeping (j : Job) (a : Analysis) (s : Section) : List Call :=
  if j.keepDot then [.writeText (j.dotPath s) (a.graph j.palette s).text] else []

/-- What is done before the layout backend is asked for the first time. -/
def preparation (j : Job) (a : Analysis) (stale : Bool) : List Call :=
  [.readText j.input, .createDirAll j.outputDir, .hasEntry j.artifacts.comparison] ++
    (if stale then [.remove j.artifacts.comparison] else []) ++ keeping j a .before

/-- The calls of a comparison that does not fail: `stale` says whether there is an earlier
comparison picture, and `q` is the one that is saved. -/
def script (j : Job) (a : Analysis) (stale : Bool) (q : Picture) : List Call :=
  preparation j a stale ++ .render (j.request a .before) ::
    (keeping j a .after ++ [.render (j.request a .after), .load j.artifacts.before,
      .load j.artifacts.after, .save j.artifacts.comparison q])

theorem exists_follows_composePictures (h : Host) (past : List Call) (d : Disk) (j : Job)
    (a : Analysis) :
    ∃ q, Plan.Follows h past d (composePictures j a)
      [.load j.artifacts.before, .load j.artifacts.after, .save j.artifacts.comparison q] := by
  -- the picture that is saved depends on the ones that are loaded
  suffices hq : ∃ q, ∀ left right, d.load j.artifacts.before = .ok left →
      d.load j.artifacts.after = .ok right → left.beside right = q by
    obtain ⟨q, hq⟩ := hq
    refine ⟨q, Plan.follows_orFail (c := .load _) (fun r => r) (fun reply => ?_) fun left hleft =>
      Plan.follows_orFail (c := .load _) (fun r => r) (fun reply => ?_) fun right hright => ?_⟩
    · cases reply <;> rfl
    · cases reply <;> rfl
    · rw [← hq left right hleft hright]
      refine Plan.follows_orFail (c := .save _ _) (fun r => r) (fun reply => ?_) fun _ _ =>
        Plan.follows_done _
      cases reply <;> rfl
  cases hleft : d.load j.artifacts.before with
  | error e => exact ⟨.ofBytes .rgb8 0 0 .empty, fun _ _ hl => nomatch hl⟩
  | ok left =>
    cases hright : d.load j.artifacts.after with
    | error e => exact ⟨left, fun _ _ _ hr => nomatch hr⟩
    | ok right =>
      refine ⟨left.beside right, fun _ _ hl hr => ?_⟩
      rw [Except.ok.inj hl, Except.ok.inj hr]

theorem exists_follows_drawSection (past : List Call) (d : Disk) (j : Job) (a : Analysis)
    (s : Section) {next : Plan (Except Failure Report)} {cs : Picture → List Call}
    (hnext : ∀ past d, ∃ q, Plan.Follows h past d next (cs q)) :
    ∃ q, Plan.Follows h past d (drawSection j a s next)
      (keeping j a s ++ Call.render (j.request a s) :: cs q) := by
  have hdraw : ∀ past d, ∃ q, Plan.Follows h past d (renderSection j a s next)
      (.render (j.request a s) :: cs q) := by
    intro past d
    obtain ⟨q, hq⟩ := hnext (past ++ [Call.render (j.request a s)])
      (h.perform past (.render (j.request a s)) d).2
    refine ⟨q, Plan.follows_orFail (c := .render _) (fun r => r) (fun reply => ?_) fun _ _ => hq⟩
    cases reply <;> rfl
  unfold drawSection keeping
  split
  · obtain ⟨q, hq⟩ := hdraw (past ++ [Call.writeText (j.dotPath s) (a.graph j.palette s).text])
      (h.perform past (.writeText (j.dotPath s) (a.graph j.palette s).text) d).2
    refine ⟨q, Plan.follows_orFail (c := .writeText _ _) (fun r => r) (fun reply => ?_)
      fun _ _ => hq⟩
    cases reply <;> rfl
  · exact hdraw past d

theorem exists_follows_removeStale (past : List Call) (d : Disk) (path : String)
    {next : Plan (Except Failure Report)} {cs : Picture → List Call}
    (hnext : ∀ past d, ∃ q, Plan.Follows h past d next (cs q)) :
    ∃ (stale : Bool) (q : Picture), Plan.Follows h past d (removeStale path next)
      (Call.hasEntry path :: (if stale then [Call.remove path] else []) ++ cs q) := by
  suffices hrest : ∃ (stale : Bool) (q : Picture), Plan.Follows h (past ++ [Call.hasEntry path]) d
      (if d.hasEntry path then removal path next else next)
      ((if stale then [Call.remove path] else []) ++ cs q) by
    obtain ⟨stale, q, hf⟩ := hrest
    exact ⟨stale, q,
      hf.cons (c := .hasEntry path) (goesOn_removeStale h past d path next).run rfl rfl⟩
  split
  · obtain ⟨q, hq⟩ := hnext (past ++ [Call.hasEntry path] ++ [Call.remove path])
      (h.perform (past ++ [Call.hasEntry path]) (.remove path) d).2
    refine ⟨true, q,
      Plan.follows_orFail (c := .remove _) (fun r => r) (fun reply => ?_) fun _ _ => hq⟩
    cases reply <;> rfl
  · obtain ⟨q, hq⟩ := hnext (past ++ [Call.hasEntry path]) d
    exact ⟨false, q, hq⟩

/-- What follows once the dump has been read. -/
theorem exists_follows_drawingPlan (h : Host) (past : List Call) (d : Disk) (j : Job)
    (a : Analysis) :
    ∃ (stale : Bool) (q : Picture),
      Plan.Follows h past d (drawingPlan j a) (script j a stale q).tail := by
  obtain ⟨stale, q, hq⟩ := exists_follows_removeStale (past ++ [Call.createDirAll j.outputDir])
    (h.perform past (.createDirAll j.outputDir) d).2 j.artifacts.comparison
    fun past d => exists_follows_drawSection past d j a .before
      fun past d => exists_follows_drawSection past d j a .after
        fun past d => exists_follows_composePictures h past d j a
  refine ⟨stale, q, ?_⟩
  have hscript : (script j a stale q).tail = Call.createDirAll j.outputDir ::
      (Call.hasEntry j.artifacts.comparison ::
        (if stale then [Call.remove j.artifacts.comparison] else []) ++
        (keeping j a .before ++ Call.render (j.request a .before) :: (keeping j a .after ++
          Call.render (j.request a .after) ::
          [Call.load j.artifacts.before, Call.load j.artifacts.after,
            Call.save j.artifacts.comparison q]))) := by
    simp [script, preparation]
  rw [hscript]
  refine Plan.follows_orFail (c := .createDirAll _) (fun r => r) (fun reply => ?_) fun _ _ => hq
  cases reply <;> rfl

/-- What a dump that could be analysed was read from. -/
theorem exists_text_of_analysis {input : String}
    (hok : ((analysisPlan input).run h d).result = .ok a) :
    ∃ text, (h.perform [] (.readText input) d).1 = .ok text ∧ Analysis.ofText text = .ok a := by
  rw [run_analysisPlan] at hok
  exact exists_text_of_analyse hok

/-- A dump that cannot be read or analysed is all that the comparison has looked at. -/
theorem run_of_analysis_error (herr : ((analysisPlan j.input).run h d).result = .error f) :
    (plan j).run h d = ⟨.error f, d, [.readText j.input]⟩ ∧
      (plan j).moments h [] d = [⟨[], d, .readText j.input⟩] := by
  have hanalyse : analyse j.input (h.perform [] (.readText j.input) d).1 = .error f := herr
  have hplan := run_plan h j d
  rw [hanalyse] at hplan
  exact hplan

/-- **Every comparison follows its script.** -/
theorem exists_follows_plan (hok : ((analysisPlan j.input).run h d).result = .ok a) :
    ∃ (stale : Bool) (q : Picture), Plan.Follows h [] d (plan j) (script j a stale q) := by
  obtain ⟨text, hread, ha⟩ := exists_text_of_analysis hok
  obtain ⟨hrun, hmoments⟩ := run_of_analysis hread ha
  obtain ⟨stale, q, hf⟩ := exists_follows_drawingPlan h [.readText j.input] d j a
  refine ⟨stale, q, hf.cons (c := .readText j.input) hrun hmoments ?_⟩
  rw [hread]
  rfl

/-! ## What the script says -/

section Script

variable {stale : Bool} {q : Picture}

theorem requests_run (h : Host) (j : Job) (d : Disk) :
    ((plan j).run h d).requests =
      (((plan j).moments h [] d).map Moment.call).filterMap Call.request? := by
  rw [Ran.requests, Plan.run, Plan.calls_runFrom, List.nil_append]

@[simp] theorem filterMap_render_cons (r : Layout.Request) (cs : List Call) :
    (Call.render r :: cs).filterMap Call.request? = r :: cs.filterMap Call.request? := rfl

theorem filterMap_keeping (j : Job) (a : Analysis) (s : Section) :
    (keeping j a s).filterMap Call.request? = [] := by
  unfold keeping
  split <;> rfl

theorem filterMap_preparation (j : Job) (a : Analysis) (stale : Bool) :
    (preparation j a stale).filterMap Call.request? = [] := by
  rw [preparation, List.filterMap_append, filterMap_keeping, List.append_nil]
  cases stale <;> rfl

theorem filterMap_script (j : Job) (a : Analysis) (stale : Bool) (q : Picture) :
    (script j a stale q).filterMap Call.request? = [j.request a .before, j.request a .after] := by
  rw [script, List.filterMap_append, filterMap_preparation, List.nil_append,
    filterMap_render_cons, List.filterMap_append, filterMap_keeping]
  rfl

/-- The two graph texts differ in the names of the graphs. -/
theorem text_graph_ne (a : Analysis) (palette : Palette) :
    (a.graph palette .before).text ≠ (a.graph palette .after).text := by
  have hname : ∀ s, (a.graph palette s).name = Analysis.graphName s := by
    intro s
    rw [Analysis.graph_eq_ofTree]
    change Graph.legalName (Analysis.graphName s) = Analysis.graphName s
    cases s <;> decide
  intro heq
  have hchars := congrArg (fun t => (String.toList t).take 10) heq
  simp [Graph.text, hname, Analysis.graphName] at hchars

/-- The calls that can end a comparison before the layout backend is asked. -/
def preparing (j : Job) (a : Analysis) : List Call :=
  [.createDirAll j.outputDir, .remove j.artifacts.comparison,
    .writeText (j.dotPath .before) (a.graph j.palette .before).text]

/-- They are not made later. -/
theorem notMem_of_mem_preparing {c : Call} (hc : c ∈ preparing j a) :
    c ∉ Call.render (j.request a .before) ::
      (keeping j a .after ++ [Call.render (j.request a .after), Call.load j.artifacts.before,
        Call.load j.artifacts.after, Call.save j.artifacts.comparison q]) := by
  have htext := text_graph_ne a j.palette
  simp only [preparing, List.mem_cons, List.not_mem_nil, or_false] at hc
  unfold keeping
  obtain rfl | rfl | rfl := hc <;> split <;> simp [htext]

theorem save_notMem (j : Job) (a : Analysis) (stale : Bool) (path : String) (q' : Picture) :
    Call.save path q' ∉ preparation j a stale ++ Call.render (j.request a .before) ::
      (keeping j a .after ++ [Call.render (j.request a .after), Call.load j.artifacts.before,
        Call.load j.artifacts.after]) := by
  unfold preparation keeping
  cases stale <;> cases j.keepDot <;> simp

/-- The order of effects in a comparison of a dump that could be analysed. -/
structure InOrder (h : Host) (j : Job) (d : Disk) (a : Analysis) : Prop where
  /-- The calls are the first ones of the script, and all of them if none fails. -/
  script : ∃ stale q, ((plan j).run h d).calls <+: script j a stale q ∧
    ((∀ m ∈ (plan j).moments h [] d, m.failure? h = none) →
      ((plan j).run h d).calls = script j a stale q ∧
      ∃ report, ((plan j).run h d).result = .ok report)
  /-- Nothing is done after a call that fails, and its failure is the result. -/
  stops : ∀ earlier m later f, (plan j).moments h [] d = earlier ++ m :: later →
    m.failure? h = some f → later = [] ∧ ((plan j).run h d).result = .error f
  /-- The backend is asked for the pictures of the sections, the first section first. -/
  requests : ((plan j).run h d).requests <+: [j.request a .before, j.request a .after]
  /-- It is asked for the second one only if the first one succeeded. -/
  second : ∀ r r', ((plan j).run h d).requests = [r, r'] →
    ∃ m ∈ (plan j).moments h [] d, m.call = .render r ∧ m.failure? h = none
  /-- It is not asked at all if a preparation fails. -/
  unasked : ∀ m ∈ (plan j).moments h [] d, m.call ∈ preparing j a → m.failure? h ≠ none →
    ((plan j).run h d).requests = []
  /-- The comparison picture is saved after everything else, once both pictures have been drawn and
  loaded. -/
  saved : ∀ m ∈ (plan j).moments h [] d, ∀ path q, m.call = .save path q →
    path = j.artifacts.comparison ∧ ∃ earlier, (plan j).moments h [] d = earlier ++ [m] ∧
      ∀ s, (∃ m' ∈ earlier, m'.call = .render (j.request a s) ∧ m'.failure? h = none) ∧
        ∃ m' ∈ earlier, m'.call = .load (j.picturePath s) ∧ m'.failure? h = none

/-- A run that follows the script has its effects in order. -/
theorem inOrder_of_follows (hf : Plan.Follows h [] d (plan j) (script j a stale q)) :
    InOrder h j d a where
  script := by
    refine ⟨stale, q, ?_⟩
    rw [Plan.run, Plan.calls_runFrom, List.nil_append]
    exact ⟨hf.calls, hf.completes⟩
  stops := hf.stops
  requests := by
    rw [requests_run, ← filterMap_script j a stale q]
    exact hf.calls.filterMap _
  second r r' hrequests := by
    rw [requests_run] at hrequests
    obtain hprep | ⟨earlier, m, later, hsplit, hearlier, hm, -⟩ := hf.calls_cases
    · have hnone := hprep.filterMap Call.request?
      rw [hrequests, filterMap_preparation] at hnone
      simp at hnone
    · -- the second request comes after the first one
      rw [hsplit, List.map_append, List.map_cons, hm, hearlier, List.filterMap_append,
        filterMap_preparation, List.nil_append, filterMap_render_cons] at hrequests
      obtain ⟨rfl, hlater⟩ := List.cons.inj hrequests
      refine ⟨m, by simp [hsplit], hm, hf.failure?_eq_none hsplit ?_⟩
      rintro rfl
      simp at hlater
  unasked m hmem hm hfail := by
    rw [requests_run]
    obtain hprep | ⟨earlier, m', later, hsplit, hearlier, hm', hlater⟩ := hf.calls_cases
    · exact List.prefix_nil.mp (filterMap_preparation j a stale ▸ hprep.filterMap _)
    · -- the backend has been asked, so the preparations have succeeded
      exfalso
      rw [hsplit, List.mem_append, List.mem_cons] at hmem
      obtain hmem | rfl | hmem := hmem
      · exact hfail (hf.failure?_of_mem hsplit hmem)
      · rw [hm'] at hm
        exact notMem_of_mem_preparing (q := q) hm List.mem_cons_self
      · exact notMem_of_mem_preparing hm
          (List.mem_cons_of_mem _ (hlater.subset (List.mem_map_of_mem hmem)))
  saved m hmem path q' hm := by
    have hscript : script j a stale q = (preparation j a stale ++ .render (j.request a .before) ::
        (keeping j a .after ++ [.render (j.request a .after), .load j.artifacts.before,
          .load j.artifacts.after])) ++ .save j.artifacts.comparison q :: [] := by
      simp [script]
    rw [hscript] at hf
    have hlast : m.call = .save j.artifacts.comparison q := by
      have hcall := hf.calls.subset (List.mem_map_of_mem hmem)
      rw [List.mem_append, List.mem_singleton] at hcall
      exact hcall.resolve_left (hm ▸ save_notMem j a stale path q')
    obtain ⟨rfl, rfl⟩ := Call.save.inj (hm.symm.trans hlast)
    obtain ⟨earlier, later, hsplit, hearlier, hlater⟩ :=
      hf.exists_split (save_notMem j a stale _ _) List.not_mem_nil hmem hlast
    obtain rfl : later = [] := List.map_eq_nil_iff.mp (List.prefix_nil.mp hlater)
    have hmade : ∀ c ∈ earlier.map Moment.call, ∃ m' ∈ earlier, m'.call = c ∧
        m'.failure? h = none := by
      intro c hc
      obtain ⟨m', hm', rfl⟩ := List.mem_map.mp hc
      exact ⟨m', hm', rfl, hf.failure?_of_mem hsplit hm'⟩
    refine ⟨rfl, earlier, hsplit, fun s => ⟨hmade _ ?_, hmade _ ?_⟩⟩ <;> rw [hearlier] <;>
      cases s <;> simp [Job.picturePath]

/-! ## What a failure leaves -/

/-- When drawing fails, the earlier comparison picture has been removed, and only pictures and graph
texts of sections have been written since. -/
theorem exists_cleared_of_failure {m : Moment} (hb : h.backend.WritesOnlyOutput)
    (hok : ((analysisPlan j.input).run h d).result = .ok a)
    (hf : Plan.Follows h [] d (plan j) (script j a stale q))
    (hmem : m ∈ (plan j).moments h [] d) (hdraws : m.call.draws = true)
    (hfail : m.failure? h ≠ none) :
    ∃ cleared : Disk, cleared.hasEntry j.artifacts.comparison = false ∧
      cleared.WrittenThrough j.drawn ((plan j).run h d).disk := by
  obtain ⟨f, hfailure⟩ := Option.ne_none_iff_exists'.mp hfail
  obtain ⟨earlier, later, hsplit⟩ := List.append_of_mem hmem
  obtain ⟨rfl, herr⟩ := hf.stops earlier m later f hsplit hfailure
  obtain ⟨text, hread, ha⟩ := exists_text_of_analysis hok
  obtain ⟨hrun, hmoments⟩ := run_of_analysis hread ha
  have hsub : (drawingPlan j a).moments h [.readText j.input] d ⊆ (plan j).moments h [] d := by
    rw [hmoments]
    exact List.subset_cons_self _ _
  -- the removal came before the call that failed, and the save would have come after it
  have hremove : ∀ past' d', ⟨past', d', .remove j.artifacts.comparison⟩ ∈
      (drawingPlan j a).moments h [.readText j.input] d →
        (h.perform past' (.remove j.artifacts.comparison) d').1 = .ok () := by
    intro past' d' hx
    have hx := hsub hx
    rw [hsplit, List.mem_append, List.mem_singleton] at hx
    obtain hx | rfl := hx
    · have hnone := hf.failure?_of_mem hsplit hx
      cases hreply : (h.perform past' (.remove j.artifacts.comparison) d').1 with
      | ok u => rfl
      | error e =>
        rw [Moment.failure?, hreply] at hnone
        cases hnone
    · cases hdraws
  have hsave : ∀ past' d' q, ⟨past', d', .save j.artifacts.comparison q⟩ ∉
      (drawingPlan j a).moments h [.readText j.input] d := by
    intro past' d' q hx
    obtain ⟨-, before, hlast, -⟩ := (inOrder_of_follows hf).saved _ (hsub hx) _ _ rfl
    obtain ⟨-, hm⟩ := List.append_inj' (hlast.symm.trans hsplit) rfl
    obtain rfl := List.singleton_inj.mp hm
    cases hdraws
  rw [← Plan.run, hrun] at herr
  rw [hrun]
  obtain ⟨hearly, -⟩ | ⟨-, hcleared⟩ := failed_drawingPlan hb hremove
    (fun past' d' q e hx => absurd hx (hsave past' d' q)) herr
  · rw [Call.precedesRemoval_of_draws hdraws hfailure] at hearly
    cases hearly
  · exact hcleared

end Script

/-- **The order of effects in a comparison.** A dump that cannot be analysed is all that is looked
at. Else the calls are the first ones of the script, all of them if none fails, and one that fails
is the last one: the backend is asked for the two pictures in order, for the second one only once
the first one has been drawn, and not at all if something fails before; the comparison picture is
saved at the very end, once both pictures have been drawn and loaded. With a backend that writes
only the pictures it is asked for, a failure to write a graph text, to draw or to load leaves a file
at the path of the comparison picture exactly if it is one that a path of the sections leads to,
which takes a link or a run id with a slash in it. -/
theorem effects_in_order (h : Host) (j : Job) (d : Disk) :
    ((plan j).run h d).calls = ((plan j).moments h [] d).map Moment.call ∧
    (∀ f, ((analysisPlan j.input).run h d).result = .error f →
      (plan j).run h d = ⟨.error f, d, [.readText j.input]⟩ ∧ ((plan j).run h d).requests = []) ∧
    ∀ a, ((analysisPlan j.input).run h d).result = .ok a →
      InOrder h j d a ∧
      (h.backend.WritesOnlyOutput → ∀ m ∈ (plan j).moments h [] d, m.call.draws = true →
        m.failure? h ≠ none →
        let left := ((plan j).run h d).disk
        (left.isFile j.artifacts.comparison = true ↔
          ∃ p ∈ j.drawn, left.isFile p = true ∧
            left.locate p = left.locate j.artifacts.comparison) ∧
        (j.naming.Plain → (∀ p ∈ j.outputs, ¬ left.NamesLink p) →
          left.isFile j.artifacts.comparison = false)) := by
  refine ⟨Plan.calls_runFrom h (plan j) [] d, fun f herr => ?_, fun a hok => ?_⟩
  · have hrun := (run_of_analysis_error herr).1
    exact ⟨hrun, by rw [hrun]; rfl⟩
  · obtain ⟨stale, q, hf⟩ := exists_follows_plan hok
    refine ⟨inOrder_of_follows hf, fun hb m hmem hdraws hfail => ?_⟩
    obtain ⟨cleared, hfree, hwritten⟩ := exists_cleared_of_failure hb hok hf hmem hdraws hfail
    exact isFile_comparison_of_writtenThrough hfree hwritten

open Session.Example Example in
/-- Where the second of two steps fails, only what has to come before it has been done, and the
comparison picture of an earlier run is gone. -/
theorem effects_in_order_failing :
    InOrder failing job (disk (stale ++ start)) analysis ∧
      ((plan job).run failing (disk (stale ++ start))).requests = [job.request analysis .before] ∧
      ((plan job).run failing (disk (stale ++ start))).disk.isFile job.artifacts.comparison =
        false := by
  obtain ⟨hdisk, -, hmoments⟩ := run_failing
  have htext : (disk (stale ++ start)).readText "dump" = .ok dump := Disk.readText_of_read rfl
  have hread : (failing.perform [] (.readText job.input) (disk (stale ++ start))).1 = .ok dump :=
    htext
  have hanalysis : ((analysisPlan job.input).run failing (disk (stale ++ start))).result =
      .ok analysis :=
    (result_analysisPlan_of_read hread).trans ofText_dump
  have hnames : ∀ p ∈ job.outputs, removed.lstat p = .error .notFound := by
    decide
  obtain ⟨hcalls, -, horder⟩ := effects_in_order failing job (disk (stale ++ start))
  obtain ⟨ho, hleft⟩ := horder analysis hanalysis
  refine ⟨ho, ?_, (hleft failing_writesOnlyOutput
    ⟨looked ++ [.remove "ast_comparison.png"], removed, .render (job.request analysis .before)⟩
    ?_ rfl nofun).2 trivial ?_⟩
  · rw [Ran.requests, hcalls, hmoments]
    rfl
  · rw [hmoments]
    simp
  · rw [hdisk]
    rintro p hp ⟨l, t, hlink⟩
    rw [hnames p hp] at hlink
    cases hlink

namespace Example

open Session.Example

/-- A backend that draws the first picture and fails at the second one. -/
def drawingOnce : Host where
  backend := ⟨fun earlier r d =>
    if earlier.isEmpty then (Layout.Deed.draws pixel).carryOut ⟨earlier, r, d⟩
    else (.error (.layout "no layout" none), d), fun d => (.ok "", d)⟩

/-- A run id that leads out of the directory that its name starts with. -/
def stepOutJob : Job :=
  { input := "dump", outputDir := "", naming := .perRun "a/../q" }

/-- The dump, and the directories that the three names start with. -/
def threeDirs : Disk :=
  { disk start with
    entries := ["original_ast-a", "optimized_ast_highlighted-a", "ast_comparison-a"].map
      (fun name => (["work", name], .directory {})) ++ (disk start).entries }

theorem drawingOnce_writesOnlyOutput : drawingOnce.backend.WritesOnlyOutput := by
  intro earlier r d
  cases earlier with
  | cons e es => exact .refl
  | nil =>
    have hsave : drawingOnce.backend.render [] r d =
        (Layout.Deed.draws pixel).carryOut ⟨[], r, d⟩ := rfl
    have hwritten := d.writtenThrough_save r.output pixel
    rw [hsave, Layout.Deed.carryOut]
    split <;> (rename_i hsaved; rwa [hsaved] at hwritten)

end Example

open Session.Example Example in
/-- **A failed comparison may leave a picture where the comparison picture belongs.** All three
names lead to one place by the run id alone. The backend draws the first picture there and fails at
the second one. -/
theorem isFile_comparison_of_failed_render :
    drawingOnce.backend.WritesOnlyOutput ∧
      ((analysisPlan stepOutJob.input).run drawingOnce threeDirs).result = .ok analysis ∧
      (∃ m ∈ (plan stepOutJob).moments drawingOnce [] threeDirs,
        m.call = .render (stepOutJob.request analysis .after) ∧ m.failure? drawingOnce ≠ none) ∧
      threeDirs.isFile stepOutJob.artifacts.comparison = false ∧
      ((plan stepOutJob).run drawingOnce threeDirs).disk.isFile stepOutJob.artifacts.comparison =
        true := by
  have htext : threeDirs.readText "dump" = .ok dump := Disk.readText_of_read rfl
  have hread : (drawingOnce.perform [] (.readText stepOutJob.input) threeDirs).1 = .ok dump := htext
  obtain ⟨hrun, hmoments⟩ := run_of_analysis hread ofText_dump
  refine ⟨drawingOnce_writesOnlyOutput, (result_analysisPlan_of_read hread).trans ofText_dump,
    ?_, rfl, ?_⟩
  · rw [hmoments]
    exact ⟨_, .tail _ (.tail _ (.tail _ (.tail _ (.head _)))), rfl, nofun⟩
  · rw [hrun]
    rfl

end Comparison

end AstCompare
