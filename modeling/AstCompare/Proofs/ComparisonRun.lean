import AstCompare.Comparison.Run
import AstCompare.Proofs.DiskFiles

/-!
# The course of a comparison

A comparison that succeeds has made every one of its steps, in order. Its course is the row of disks
between those steps, together with what was read on the way: each disk comes from the one before it
by one operation of the file system or one answer of the layout backend.

Every part of the plan is opened once, in both directions: a part that does not end the comparison
has done its step, and a step that can be done takes the plan to the next part. `Plan.GoesOn` is
what is said about the parts in between, in which the backend has no say.

## Main definitions

* `Plan.asked`: the requests of a run as the backend gets them.
* `Plan.GoesOn`: a plan goes on as another one.
* `Comparison.Course`: the disks between the steps of a comparison that succeeds.

## Main results

* `Comparison.exists_course`: every comparison that succeeds has a course.
* `Comparison.Course.run_eq`: where nothing is refused, a comparison that has a course succeeds.
-/

namespace AstCompare

/-! ## The paths of the pictures -/

theorem Naming.getLast?_fileName (n : Naming) (stem : String) :
    (n.fileName stem).toList.getLast? = some 'g' := by
  cases n <;>
  · rw [Naming.fileName, String.toList_append, List.getLast?_append]
    rfl

theorem Path.getLast?_join {dir p : String} {c : Char} (hp : p.toList.getLast? = some c) :
    (Path.join dir p).toList.getLast? = some c := by
  unfold Path.join
  split
  · exact hp
  · split <;> rw [String.toList_append, List.getLast?_append, hp] <;> rfl

theorem Comparison.Job.endsInSlash_comparison (j : Comparison.Job) :
    Disk.endsInSlash j.artifacts.comparison = false := by
  have hlast : j.artifacts.comparison.toList.getLast? = some 'g' :=
    Path.getLast?_join (Naming.getLast?_fileName _ _)
  rw [Disk.endsInSlash, hlast]
  rfl

/-! ## What the backend is asked -/

/-- A request as a backend gets it: after the earlier requests of the same run, and on a disk. -/
structure Layout.Asked where
  earlier : List Layout.Request
  request : Layout.Request
  disk : Disk

namespace Plan

variable {α : Type} {h : Host} {past past' past'' : List Call} {d d' d'' : Disk}
  {plan plan' plan'' : Plan α}

/-- The requests that the backend gets while a plan runs. -/
def asked (h : Host) (past : List Call) (d : Disk) : Plan α → List Layout.Asked
  | done _ => []
  | call c next =>
    (c.request?.map fun r => ⟨past.filterMap Call.request?, r, d⟩).toList ++
      asked h (past ++ [c]) (h.perform past c d).2 (next (h.perform past c d).1)

/-- A plan goes on as another one, and the backend is not asked in between. -/
structure GoesOn (h : Host) (plan : Plan α) (past : List Call) (d : Disk) (plan' : Plan α)
    (past' : List Call) (d' : Disk) : Prop where
  requests : past'.filterMap Call.request? = past.filterMap Call.request?
  run : plan.runFrom h past d = plan'.runFrom h past' d'
  asked : plan.asked h past d = plan'.asked h past' d'

namespace GoesOn

theorem refl (h : Host) (plan : Plan α) (past : List Call) (d : Disk) :
    GoesOn h plan past d plan past d :=
  ⟨rfl, rfl, rfl⟩

theorem trans (h₁ : GoesOn h plan past d plan' past' d')
    (h₂ : GoesOn h plan' past' d' plan'' past'' d'') : GoesOn h plan past d plan'' past'' d'' :=
  ⟨h₂.requests.trans h₁.requests, h₁.run.trans h₂.run, h₁.asked.trans h₂.asked⟩

theorem call {c : Call} {next : c.Reply → Plan α} {reply : c.Reply} (hc : c.request? = none)
    (hp : h.perform past c d = (reply, d')) :
    GoesOn h (.call c next) past d (next reply) (past ++ [c]) d' := by
  refine ⟨by simp [hc], ?_, ?_⟩
  · rw [runFrom, hp]
  · rw [Plan.asked, hp, hc]
    rfl

end GoesOn

end Plan

namespace Comparison

variable {h : Host} {past : List Call} {d d' : Disk} {j : Job} {a : Analysis} {s : Section}
  {report : Report}

/-- A call that must succeed: if the comparison succeeds, so did the call, and the plan goes on with
what the call yields. -/
theorem goesOn_of_orFail {ε α β : Type} {c : Call} (v : c.Reply → Except ε α) {fail : ε → Failure}
    {next : α → Plan (Except Failure β)} {b : β} (hc : c.request? = none)
    (hok : ((Plan.call c fun reply => orFail fail (v reply) next).runFrom h past d).result =
      .ok b) :
    ∃ x, v (h.perform past c d).1 = .ok x ∧
      Plan.GoesOn h (.call c fun reply => orFail fail (v reply) next) past d (next x) (past ++ [c])
        (h.perform past c d).2 := by
  have hgoes : Plan.GoesOn h (.call c fun reply => orFail fail (v reply) next) past d
      (orFail fail (v (h.perform past c d).1) next) (past ++ [c]) (h.perform past c d).2 :=
    .call hc rfl
  rw [hgoes.run] at hok
  cases hv : v (h.perform past c d).1 with
  | error e =>
    rw [hv] at hok
    cases hok
  | ok x =>
    rw [hv] at hgoes
    exact ⟨x, rfl, hgoes⟩

/-! ## Courses -/

/-- Whatever a path led to is gone. -/
def Cleared (d : Disk) (path : String) (d' : Disk) : Prop :=
  (d.hasEntry path = false ∧ d' = d) ∨ (d.hasEntry path = true ∧ d.remove path = .ok d')

/-- The graph text of a section has been kept, if that is wanted. -/
def Kept (j : Job) (a : Analysis) (s : Section) (d d' : Disk) : Prop :=
  (j.keepDot = false ∧ d' = d) ∨
    (j.keepDot = true ∧ d.write (j.dotPath s) (.ofText (a.graph j.palette s).text) = .ok d')

/-- The disks between the steps of a comparison that succeeds, and what is read on the way. -/
structure Course (h : Host) (j : Job) (d : Disk) where
  text : String
  analysis : Analysis
  made : Disk
  cleared : Disk
  ready₁ : Disk
  drawn₁ : Disk
  ready₂ : Disk
  drawn₂ : Disk
  left : Picture
  right : Picture
  final : Disk
  read : d.readText j.input = .ok text
  analyse : Analysis.ofText text = .ok analysis
  make : d.createDirAll j.outputDir = (made, none)
  clear : Cleared made j.artifacts.comparison cleared
  keep₁ : Kept j analysis .before cleared ready₁
  draw₁ : h.backend.render [] (j.request analysis .before) ready₁ = (.ok (), drawn₁)
  keep₂ : Kept j analysis .after drawn₁ ready₂
  draw₂ : h.backend.render [j.request analysis .before] (j.request analysis .after) ready₂ =
    (.ok (), drawn₂)
  loadLeft : drawn₂.load j.artifacts.before = .ok left
  loadRight : drawn₂.load j.artifacts.after = .ok right
  save : drawn₂.save j.artifacts.comparison (left.beside right) = (final, none)

/-! ## The steps one by one -/

theorem exists_of_renderSection {next : Plan (Except Failure Report)}
    (hok : ((renderSection j a s next).runFrom h past d).result = .ok report) :
    ∃ d', h.backend.render (past.filterMap Call.request?) (j.request a s) d = (.ok (), d') := by
  have hrun : (renderSection j a s next).runFrom h past d =
      (orFail (fun e => .backend ("render " ++ j.picturePath s) (Failure.causes e))
        (h.backend.render (past.filterMap Call.request?) (j.request a s) d).1
        fun _ => next).runFrom h
          (past ++ [.render (j.request a s)])
          (h.backend.render (past.filterMap Call.request?) (j.request a s) d).2 := rfl
  rw [hrun] at hok
  generalize h.backend.render (past.filterMap Call.request?) (j.request a s) d = answer at hok ⊢
  obtain ⟨reply, d'⟩ := answer
  cases reply with
  | error e => cases hok
  | ok u => exact ⟨d', rfl⟩

theorem runFrom_renderSection {next : Plan (Except Failure Report)}
    (hr : h.backend.render (past.filterMap Call.request?) (j.request a s) d = (.ok (), d')) :
    (renderSection j a s next).runFrom h past d =
      next.runFrom h (past ++ [.render (j.request a s)]) d' := by
  have hp : h.perform past (.render (j.request a s)) d = (Except.ok (), d') := hr
  rw [renderSection, Plan.runFrom, hp]
  rfl

theorem asked_renderSection {next : Plan (Except Failure Report)}
    (hr : h.backend.render (past.filterMap Call.request?) (j.request a s) d = (.ok (), d')) :
    (renderSection j a s next).asked h past d =
      ⟨past.filterMap Call.request?, j.request a s, d⟩ ::
        next.asked h (past ++ [.render (j.request a s)]) d' := by
  have hp : h.perform past (.render (j.request a s)) d = (Except.ok (), d') := hr
  rw [renderSection, Plan.asked, hp]
  rfl

/-- An operation that may be refused has been carried out if it succeeds. -/
theorem eq_ok_of_settle {refused : Bool} {r : Except DiskError Disk} {u : Unit}
    (hu : (if refused then (.error .refused, d) else Host.settle d r).1 = Except.ok u) :
    r = .ok (if refused then (.error .refused, d) else Host.settle d r).2 := by
  cases refused with
  | true => cases hu
  | false =>
    cases r with
    | error e => cases hu
    | ok d' => rfl

theorem perform_remove_eq_ok {path : String} {u : Unit}
    (hu : (h.perform past (.remove path) d).1 = Except.ok u) :
    d.remove path = .ok (h.perform past (.remove path) d).2 :=
  eq_ok_of_settle hu

theorem perform_writeText_eq_ok {path text : String} {u : Unit}
    (hu : (h.perform past (.writeText path text) d).1 = Except.ok u) :
    d.write path (.ofText text) = .ok (h.perform past (.writeText path text) d).2 :=
  eq_ok_of_settle hu

theorem perform_createDirAll_eq_ok {path : String} {u : Unit}
    (hu : (h.perform past (.createDirAll path) d).1 = Except.ok u) :
    d.createDirAll path = ((h.perform past (.createDirAll path) d).2, none) := by
  rw [Host.perform_createDirAll] at hu ⊢
  generalize d.createDirAll path = made at hu ⊢
  obtain ⟨d', e⟩ := made
  cases hrefused : h.refusals.createDir with
  | true =>
    rw [hrefused] at hu
    cases hu
  | false =>
    rw [hrefused] at hu
    cases e with
    | none => rfl
    | some e => cases hu

theorem perform_save_eq_ok {path : String} {q : Picture} {u : Unit}
    (hu : (h.perform past (.save path q) d).1 = Except.ok u) :
    d.save path q = ((h.perform past (.save path q) d).2, none) := by
  rw [Host.perform_save] at hu ⊢
  generalize d.save path q = saved at hu ⊢
  obtain ⟨d', e⟩ := saved
  cases e with
  | none => rfl
  | some e => cases hu

theorem perform_readText_eq_ok {path text : String}
    (hu : (h.perform past (.readText path) d).1 = Except.ok text) : d.readText path = .ok text := by
  rw [Host.perform_readText] at hu
  split at hu
  · cases hu
  · exact hu

/-- Looking for an earlier comparison changes nothing. -/
theorem goesOn_removeStale (h : Host) (past : List Call) (d : Disk) (path : String)
    (next : Plan (Except Failure Report)) :
    Plan.GoesOn h (removeStale path next) past d
      (if d.hasEntry path then removal path next else next)
      (past ++ [.hasEntry path]) d :=
  .call rfl rfl

theorem exists_of_removeStale {path : String} {next : Plan (Except Failure Report)}
    (hok : ((removeStale path next).runFrom h past d).result = .ok report) :
    ∃ past' d', Cleared d path d' ∧
      Plan.GoesOn h (removeStale path next) past d next past' d' := by
  have hlook := goesOn_removeStale h past d path next
  rw [hlook.run] at hok
  split at hok
  · rename_i hhas
    rw [if_pos hhas] at hlook
    obtain ⟨u, hu, hgoes⟩ := goesOn_of_orFail (c := .remove path) (fun r => r) rfl hok
    exact ⟨_, _, .inr ⟨hhas, perform_remove_eq_ok hu⟩, hlook.trans hgoes⟩
  · rename_i hhas
    rw [if_neg hhas] at hlook
    exact ⟨_, d, .inl ⟨by simpa using hhas, rfl⟩, hlook⟩

theorem exists_of_drawSection {next : Plan (Except Failure Report)}
    (hok : ((drawSection j a s next).runFrom h past d).result = .ok report) :
    ∃ past' d₁ d₂, past'.filterMap Call.request? = past.filterMap Call.request? ++ [j.request a s] ∧
      Kept j a s d d₁ ∧
      h.backend.render (past.filterMap Call.request?) (j.request a s) d₁ = (.ok (), d₂) ∧
      (drawSection j a s next).runFrom h past d = next.runFrom h past' d₂ ∧
      (drawSection j a s next).asked h past d =
        ⟨past.filterMap Call.request?, j.request a s, d₁⟩ :: next.asked h past' d₂ := by
  -- the text is kept, or not, before the backend is asked
  obtain ⟨past₁, d₁, hkept, hgoes⟩ : ∃ past₁ d₁, Kept j a s d d₁ ∧
      Plan.GoesOn h (drawSection j a s next) past d
        (renderSection j a s next) past₁ d₁ := by
    unfold drawSection at hok ⊢
    split at hok
    · rename_i hkeep
      rw [if_pos hkeep]
      obtain ⟨u, hu, hgoes⟩ := goesOn_of_orFail (c := .writeText _ _) (fun r => r) rfl hok
      exact ⟨_, _, .inr ⟨hkeep, perform_writeText_eq_ok hu⟩, hgoes⟩
    · rename_i hkeep
      rw [if_neg hkeep]
      exact ⟨past, d, .inl ⟨by simpa using hkeep, rfl⟩, .refl _ _ _ _⟩
  rw [hgoes.run] at hok
  obtain ⟨d₂, hr⟩ := exists_of_renderSection hok
  refine ⟨past₁ ++ [.render (j.request a s)], d₁, d₂, ?_, hkept, ?_, ?_, ?_⟩
  · rw [List.filterMap_append, hgoes.requests]
    rfl
  · rw [← hgoes.requests, hr]
  · rw [hgoes.run, runFrom_renderSection hr]
  · rw [hgoes.asked, asked_renderSection hr, hgoes.requests]

theorem exists_of_composePictures
    (hok : ((composePictures j a).runFrom h past d).result = .ok report) :
    ∃ left right, d.load j.artifacts.before = .ok left ∧ d.load j.artifacts.after = .ok right ∧
      d.save j.artifacts.comparison (left.beside right) =
        (((composePictures j a).runFrom h past d).disk, none) ∧
      (composePictures j a).asked h past d = [] := by
  unfold composePictures loadPicture at hok ⊢
  obtain ⟨left, hleft, hgoes₁⟩ := goesOn_of_orFail (c := .load _) (fun r => r) rfl hok
  rw [hgoes₁.run] at hok ⊢
  rw [hgoes₁.asked]
  obtain ⟨right, hright, hgoes₂⟩ := goesOn_of_orFail (c := .load _) (fun r => r) rfl hok
  rw [hgoes₂.run] at hok ⊢
  rw [hgoes₂.asked]
  obtain ⟨u, hu, hgoes₃⟩ := goesOn_of_orFail (c := .save _ _) (fun r => r) rfl hok
  rw [hgoes₃.run] at hok ⊢
  rw [hgoes₃.asked]
  exact ⟨left, right, hleft, hright, perform_save_eq_ok hu, rfl⟩

/-- An analysis reads the dump, and that is all it does to the disk. -/
theorem run_analysisPlan (h : Host) (input : String) (d : Disk) :
    (analysisPlan input).run h d =
      ⟨analyse input (h.perform [] (.readText input) d).1, d, [.readText input]⟩ :=
  rfl

theorem result_analysisPlan_of_read {input text : String}
    (hread : (h.perform [] (.readText input) d).1 = .ok text) :
    ((analysisPlan input).run h d).result = Analysis.ofText text := by
  rw [run_analysisPlan, hread]
  rfl

/-- A dump that has been analysed has been read. -/
theorem exists_text_of_analyse {input : String} {reply : Except DiskError String}
    (ha : analyse input reply = .ok a) :
    ∃ text, reply = .ok text ∧ Analysis.ofText text = .ok a := by
  cases reply with
  | error e => cases ha
  | ok text => exact ⟨text, rfl, ha⟩

/-- **The first call.** A comparison reads its dump, and goes on with what comes of it. -/
theorem goesOn_afterAnalysis (h : Host) (j : Job) (d : Disk) :
    Plan.GoesOn h (plan j) [] d
      (afterAnalysis j (analyse j.input (h.perform [] (.readText j.input) d).1))
      [.readText j.input] d := by
  rw [plan_eq_call]
  exact .call rfl rfl

theorem exists_of_plan (hok : ((plan j).run h d).result = .ok report) :
    ∃ text a, d.readText j.input = .ok text ∧ Analysis.ofText text = .ok a ∧
      Plan.GoesOn h (plan j) [] d (drawingPlan j a) [.readText j.input] d := by
  have hread := goesOn_afterAnalysis h j d
  rw [Plan.run, hread.run] at hok
  cases hanalyse : analyse j.input (h.perform [] (.readText j.input) d).1 with
  | error f =>
    rw [hanalyse] at hok
    cases hok
  | ok a =>
    rw [hanalyse] at hread
    obtain ⟨text, htext, ha⟩ := exists_text_of_analyse hanalyse
    exact ⟨text, a, perform_readText_eq_ok htext, ha, hread⟩

/-- **The course of a comparison.** A comparison that succeeds has gone through all its steps, and
it has asked the backend twice. -/
theorem exists_course (hok : ((plan j).run h d).result = .ok report) :
    ∃ c : Course h j d, ((plan j).run h d).disk = c.final ∧
      (plan j).asked h [] d = [⟨[], j.request c.analysis .before, c.ready₁⟩,
        ⟨[j.request c.analysis .before], j.request c.analysis .after, c.ready₂⟩] := by
  obtain ⟨text, a, hread, hanalyse, hplan⟩ := exists_of_plan hok
  rw [Plan.run, hplan.run] at hok ⊢
  rw [hplan.asked]
  obtain ⟨u, hu, hmake⟩ := goesOn_of_orFail (c := .createDirAll _) (fun r => r) rfl hok
  obtain ⟨past₁, cleared, hclear, hremove⟩ := exists_of_removeStale (hmake.run ▸ hok)
  have hgoes : Plan.GoesOn h (drawingPlan j a) [.readText j.input] d
      (drawSection j a .before <| drawSection j a .after <| composePictures j a) past₁ cleared :=
    hmake.trans hremove
  have hpast₁ : past₁.filterMap Call.request? = [] := hgoes.requests
  rw [hgoes.run] at hok ⊢
  obtain ⟨past₂, ready₁, drawn₁, hpast₂, hkeep₁, hdraw₁, hrun₁, hasked₁⟩ :=
    exists_of_drawSection hok
  rw [hrun₁] at hok ⊢
  rw [hpast₁] at hpast₂ hdraw₁ hasked₁
  obtain ⟨past₃, ready₂, drawn₂, -, hkeep₂, hdraw₂, hrun₂, hasked₂⟩ := exists_of_drawSection hok
  rw [hrun₂] at hok ⊢
  rw [hpast₂] at hdraw₂ hasked₂
  obtain ⟨left, right, hleft, hright, hsave, hasked₃⟩ := exists_of_composePictures hok
  refine ⟨{
    text := text, analysis := a, made := _, cleared := cleared, ready₁ := ready₁, drawn₁ := drawn₁
    ready₂ := ready₂, drawn₂ := drawn₂, left := left, right := right, final := _
    read := hread, analyse := hanalyse, make := perform_createDirAll_eq_ok hu, clear := hclear
    keep₁ := hkeep₁, draw₁ := hdraw₁, keep₂ := hkeep₂, draw₂ := hdraw₂
    loadLeft := hleft, loadRight := hright, save := hsave }, rfl, ?_⟩
  rw [hgoes.asked, hasked₁, hasked₂, hasked₃]
  rfl

/-! ## Conversely -/

theorem goesOn_orFail {ε α β : Type} {c : Call} (v : c.Reply → Except ε α) {fail : ε → Failure}
    {next : α → Plan (Except Failure β)} {reply : c.Reply} {x : α} (hc : c.request? = none)
    (hp : h.perform past c d = (reply, d')) (hv : v reply = .ok x) :
    Plan.GoesOn h (.call c fun reply => orFail fail (v reply) next) past d (next x)
      (past ++ [c]) d' := by
  have hgoes : Plan.GoesOn h (.call c fun reply => orFail fail (v reply) next) past d
      (orFail fail (v reply) next) (past ++ [c]) d' := .call hc hp
  rw [hv] at hgoes
  exact hgoes

theorem goesOn_loadPicture {path : String} {next : Picture → Plan (Except Failure Report)}
    {q : Picture} (hq : d.load path = .ok q) :
    Plan.GoesOn h (loadPicture path next) past d (next q) (past ++ [.load path]) d :=
  goesOn_orFail (c := .load path) (fun r => r) rfl rfl hq

theorem Cleared.goesOn {path : String} (hr : h.refusals = {}) (hclear : Cleared d path d')
    (past : List Call) (next : Plan (Except Failure Report)) :
    ∃ past', Plan.GoesOn h (removeStale path next) past d next past' d' := by
  have hlook := goesOn_removeStale h past d path next
  obtain ⟨hhas, rfl⟩ | ⟨hhas, hremove⟩ := hclear
  · rw [hhas] at hlook
    exact ⟨_, hlook⟩
  · have hp : h.perform (past ++ [.hasEntry path]) (.remove path) d = (Except.ok (), d') := by
      rw [Host.perform_remove, hr, hremove]
      rfl
    rw [hhas] at hlook
    exact ⟨_, hlook.trans (goesOn_orFail (c := .remove path) (fun r => r) rfl hp rfl)⟩

theorem Kept.goesOn (hr : h.refusals = {}) (hk : Kept j a s d d') (past : List Call)
    (next : Plan (Except Failure Report)) :
    ∃ past', Plan.GoesOn h (drawSection j a s next) past d
      (renderSection j a s next) past' d' := by
  unfold drawSection
  obtain ⟨hkeep, rfl⟩ | ⟨hkeep, hw⟩ := hk
  · rw [hkeep]
    exact ⟨past, .refl _ _ _ _⟩
  · have hp : h.perform past (.writeText (j.dotPath s) (a.graph j.palette s).text) d =
        (Except.ok (), d') := by
      rw [Host.perform_writeText, hr, hw]
      rfl
    rw [hkeep]
    exact ⟨_, goesOn_orFail (c := .writeText _ _) (fun r => r) rfl hp rfl⟩

theorem runFrom_drawSection {d₁ d₂ : Disk} (hr : h.refusals = {}) (hk : Kept j a s d d₁)
    (hdraw : h.backend.render (past.filterMap Call.request?) (j.request a s) d₁ = (.ok (), d₂))
    (next : Plan (Except Failure Report)) :
    ∃ past', past'.filterMap Call.request? = past.filterMap Call.request? ++ [j.request a s] ∧
      (drawSection j a s next).runFrom h past d = next.runFrom h past' d₂ := by
  obtain ⟨past', hgoes⟩ := hk.goesOn hr past next
  rw [← hgoes.requests] at hdraw
  refine ⟨past' ++ [.render (j.request a s)], ?_, ?_⟩
  · rw [List.filterMap_append, hgoes.requests]
    rfl
  · rw [hgoes.run, runFrom_renderSection hdraw]

namespace Course

variable (c : Course h j d)

theorem goesOn_plan (hr : h.refusals = {}) :
    Plan.GoesOn h (plan j) [] d (drawingPlan j c.analysis) [.readText j.input] d := by
  have hanalyse : Comparison.analyse j.input (h.perform [] (.readText j.input) d).1 =
      .ok c.analysis := by
    rw [Host.perform_readText, hr, c.read]
    exact c.analyse
  have hread := goesOn_afterAnalysis h j d
  rw [hanalyse] at hread
  exact hread

theorem goesOn_drawingPlan (hr : h.refusals = {}) (past : List Call) :
    ∃ past', Plan.GoesOn h (drawingPlan j c.analysis) past d
      (drawSection j c.analysis .before <| drawSection j c.analysis .after <|
        composePictures j c.analysis) past' c.cleared := by
  have hp : h.perform past (.createDirAll j.outputDir) d = (Except.ok (), c.made) := by
    rw [Host.perform_createDirAll, hr, c.make]
    rfl
  obtain ⟨past', hclear⟩ := c.clear.goesOn hr (past ++ [.createDirAll j.outputDir])
    (drawSection j c.analysis .before <| drawSection j c.analysis .after <|
      composePictures j c.analysis)
  exact ⟨past', (goesOn_orFail (c := .createDirAll _) (fun r => r) rfl hp rfl).trans hclear⟩

theorem runFrom_composePictures (past : List Call) :
    ((composePictures j c.analysis).runFrom h past c.drawn₂).result =
        .ok (.ofAnalysis j c.analysis) ∧
      ((composePictures j c.analysis).runFrom h past c.drawn₂).disk = c.final := by
  have hp : ∀ past, h.perform past (.save j.artifacts.comparison (c.left.beside c.right)) c.drawn₂ =
      (Except.ok (), c.final) := by
    intro past
    rw [Host.perform_save, c.save]
    rfl
  rw [composePictures, (goesOn_loadPicture c.loadLeft).run, (goesOn_loadPicture c.loadRight).run,
    (goesOn_orFail (c := .save _ _) (fun r => r) rfl (hp _) rfl).run]
  exact ⟨rfl, rfl⟩

/-- Where nothing is refused, a comparison with a course succeeds. -/
theorem run_eq (hr : h.refusals = {}) :
    ((plan j).run h d).result = .ok (.ofAnalysis j c.analysis) ∧
      ((plan j).run h d).disk = c.final := by
  obtain ⟨past₁, hdrawing⟩ := c.goesOn_drawingPlan hr [.readText j.input]
  have hpast₁ : past₁.filterMap Call.request? = [] := hdrawing.requests
  obtain ⟨past₂, hpast₂, hrun₁⟩ := runFrom_drawSection hr c.keep₁ (hpast₁ ▸ c.draw₁)
    (drawSection j c.analysis .after <| composePictures j c.analysis)
  rw [hpast₁, List.nil_append] at hpast₂
  obtain ⟨past₃, -, hrun₂⟩ := runFrom_drawSection hr c.keep₂ (hpast₂ ▸ c.draw₂)
    (composePictures j c.analysis)
  rw [Plan.run, (c.goesOn_plan hr).run, hdrawing.run, hrun₁, hrun₂]
  exact c.runFrom_composePictures past₃

end Course

end Comparison

end AstCompare
