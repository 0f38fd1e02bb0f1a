import GjcRemote.ServiceLinuxStop
import GjcRemote.Evaluation
import Mathlib.Logic.Relation

/-! A tree whose processes do nothing but exit after the stop: when the wait ends well, and when a
poll that meets a part of the tree ends it. -/
namespace GjcRemote.ServiceLinux

open Utf16 StrictJson Record Envelope
open List hiding isEmpty
open World hiding readCgroup showUnit
open CrashTrace CrashTrace.Program

set_option maxRecDepth 100000

section Members

variable {sha256 : List UInt8 → Units}

def Formed (sha256 : List UInt8 → Units) (cgroup : Cgroup) : Prop :=
  ∃ digest, cgroupMemberFingerprint sha256 cgroup = .ok (some digest)

theorem Formed.shape (formed : Formed sha256 cgroup) :
    cgroup.processCount = cgroup.processes.length ∧ validProcesses cgroup.processes := by
  obtain ⟨digest,own⟩ := formed
  simp only [cgroupMemberFingerprint] at own
  split at own
  · rename_i shaped
    simp only [Bool.and_eq_true,decide_eq_true_eq] at shaped
    exact ⟨shaped.1.1.1,shaped.2⟩
  · cases own

theorem Formed.isEmpty_iff (formed : Formed sha256 cgroup) :
    isEmpty (some cgroup) ↔ cgroup.processes = [] := by
  simp [isEmpty,formed.shape.1]

/-- The order of the processes is not part of the fingerprint. -/
theorem byPid_perm (distinct : (processes.map Process.pid).Nodup)
    (same : processes.Perm others) : byPid processes = byPid others := by
  have sorted := perm_insertionSort (fun left right : Process => left.pid ≤ right.pid)
  have ordered := pairwise_insertionSort (fun left right : Process => left.pid ≤ right.pid)
  refine Perm.eq_of_pairwise ?_ (ordered processes) (ordered others)
    ((sorted processes).trans (same.trans (sorted others).symm))
  intro left right there there' before after
  refine inj_on_of_nodup_map distinct ((sorted processes).subset there) ?_ (le_antisymm before after)
  exact same.symm.subset ((sorted others).subset there')

theorem Formed.same_of_perm (formed : Formed sha256 cgroup) (formed' : Formed sha256 other)
    (same : cgroup.processes.Perm other.processes) :
    cgroupMemberFingerprint sha256 cgroup = cgroupMemberFingerprint sha256 other := by
  obtain ⟨digest,own⟩ := formed
  obtain ⟨digest',own'⟩ := formed'
  have distinct : (cgroup.processes.map Process.pid).Nodup := by
    have valid := Formed.shape ⟨digest,own⟩
    simp only [validProcesses,Bool.and_eq_true,decide_eq_true_eq] at valid
    exact valid.2.2
  simp only [cgroupMemberFingerprint,membersFingerprint,membersRecord,byPid_perm distinct same] at own own' ⊢
  split at own
  · split at own'
    · rename_i shaped shaped'
      rw [if_pos shaped,if_pos shaped']
    · cases own'
  · cases own

end Members

section World

variable {ω : Type} (w : World ω)

def World.members (x : ω) : List Process :=
  match (w.readCgroup x).1 with
  | .ok (some cgroup) => cgroup.processes
  | _ => []

def World.stopped (x : ω) : Bool :=
  match (w.showUnit x).1 with
  | .ok manager => isStopped manager
  | .error _ => false

def World.time (x : ω) : Int := (w.now x).1

/-- A call after the stop, up to the records of a quiescent service. -/
inductive World.Next (x : ω) : ω → Prop
  | shown : Next x (w.showUnit x).2
  | read : Next x (w.readCgroup x).2
  | asked : Next x (w.now x).2
  | slept : Next x (w.sleep x)
  | appended (entry : Entry) : Next x (w.append entry x).2

abbrev World.Later : ω → ω → Prop := Relation.ReflTransGen w.Next

structure World.Exits (x y : ω) : Prop where
  members : ∀ process ∈ w.members y, process ∈ w.members x
  stopped : w.stopped x = true → w.stopped y = true
  time : w.time x ≤ w.time y

/-- From a world on, processes do nothing but exit, and they do it before a time. -/
structure World.Exiting (sha256 : List UInt8 → Units) (first : ω) (limit : Int) : Prop where
  shows : ∀ x, w.Later first x → ∃ manager, (w.showUnit x).1 = .ok manager
  reads : ∀ x, w.Later first x → ∃ cgroup, (w.readCgroup x).1 = .ok cgroup ∧ ∀ group ∈ cgroup, Formed sha256 group
  appends : ∀ x, w.Later first x → ∀ entry, (w.append entry x).1 = .ok ()
  exits : ∀ x y, w.Later first x → w.Next x y → w.Exits x y
  sleeps : ∀ x, w.Later first x → w.time x < w.time (w.sleep x)
  ended : ∀ x, w.Later first x → limit ≤ w.time x → w.members x = [] ∧ w.stopped x = true

def World.turn (x : ω) : ω := w.sleep (w.now (w.readCgroup (w.showUnit x).2).2).2

def World.polled (x : ω) : List Process := w.members (w.showUnit x).2

variable {w} {sha256 : List UInt8 → Units} {first x y : ω} {limit : Int}

theorem World.Exiting.later (exiting : w.Exiting sha256 first limit) (reached : w.Later first x)
    (later : w.Later x y) : w.Exits x y := by
  induction later with
  | refl => exact ⟨fun _ there => there,fun there => there,le_refl _⟩
  | tail before next ih =>
    have exits := exiting.exits _ _ (reached.trans before) next
    exact ⟨fun process there => ih.members process (exits.members process there),
      fun there => exits.stopped (ih.stopped there),ih.time.trans exits.time⟩

theorem World.Exits.empty (exits : w.Exits x y) (empty : w.members x = []) : w.members y = [] := by
  refine eq_nil_iff_forall_not_mem.mpr fun process there => ?_
  simpa [empty] using exits.members process there

theorem World.later_shown (x : ω) : w.Later x (w.showUnit x).2 := .single .shown

theorem World.later_read (x : ω) : w.Later x (w.readCgroup (w.showUnit x).2).2 :=
  (later_shown x).tail .read

theorem World.later_asked (x : ω) : w.Later x (w.now (w.readCgroup (w.showUnit x).2).2).2 :=
  (later_read x).tail .asked

theorem World.later_turn (x : ω) : w.Later x (w.turn x) := (later_asked x).tail .slept

end World

section Runs

variable {ω : Type} {w : World ω} {sha256 : List UInt8 → Units}

def Driver.move (s : Driver ω) (world : ω) (event : Event) : Driver ω := {s with world := world}.note event

@[simp] theorem move_world (s : Driver ω) (world : ω) (event : Event) : (s.move world event).world = world := rfl

@[simp] theorem move_journal (s : Driver ω) (world : ω) (event : Event) : (s.move world event).journal = s.journal := rfl

theorem read_leads
    (answered : (answer s.world).1 = .ok a) :
    Leads (read answer event) s a (s.move (answer s.world).2 (event a)) := by
  have split' : answer s.world = (.ok a,(answer s.world).2) := by rw [← answered]
  constructor
  · simp only [ServiceLinux.read,perform]
    rw [split']
  · simp only [ServiceLinux.read,perform]
    rw [split']
    rfl

theorem require_leads (holds : ok = true) : Leads (require ok code reason ambiguous) s () s := by
  subst holds
  exact ⟨rfl,rfl⟩

theorem lift_leads {s : Driver ω} {result : Except Failure α} {a : α} (found : result = .ok a) :
    Leads (lift result) s a s := ⟨found,rfl⟩

theorem requireMembers_leads (formed : Formed sha256 cgroup) :
    Leads (requireMembers sha256 code cgroup) s () s := by
  obtain ⟨digest,own⟩ := formed
  exact Leads.bind (lift_leads own) (require_leads rfl)

variable {cgroup : Option Cgroup}

theorem forM_leads {check : Cgroup → Action ω Unit}
    (each : ∀ group ∈ cgroup, Leads (check group) s () s) : Leads (cgroup.forM check) s () s := by
  cases cgroup with
  | none => exact ⟨rfl,rfl⟩
  | some group => exact each group rfl

def Whole (before : Cgroup) (members : List Process) : Prop := members = [] ∨ members.Perm before.processes

theorem checkMembers_leads {s : Driver ω} (own : Formed sha256 before)
    (formed : ∀ group ∈ cgroup, Formed sha256 group) (whole : ∀ group ∈ cgroup, Whole before group.processes) :
    Leads (checkMembers sha256 before cgroup) s () s := by
  refine forM_leads fun group there => (requireMembers_leads (formed group there)).bind ?_
  split
  · rename_i left
    have perm : group.processes.Perm before.processes := by
      refine (whole group there).resolve_left fun none => ?_
      simp [(formed group there).shape.1,none] at left
    have same := (formed group there).same_of_perm own perm
    obtain ⟨digest,found⟩ := own
    exact (lift_leads (same.trans found)).bind ((lift_leads found).bind (require_leads (beq_self_eq_true _)))
  · exact ⟨rfl,rfl⟩

/-- A poll that meets a part of the tree. -/
theorem checkMembers_throws (injective : InjectiveOnCanonical sha256)
    (own : Formed sha256 before) (formed : Formed sha256 group) (partial' : ¬Whole before group.processes) :
    Throws (checkMembers sha256 before (some group)) s (.service .manualCleanup true (some .treeNotQuiescent)) s := by
  refine (requireMembers_leads formed).throws ?_
  have left : 0 < group.processCount := by
    rw [formed.shape.1]
    have some' : group.processes ≠ [] := fun none => partial' (.inl none)
    exact_mod_cast length_pos_of_ne_nil some'
  rw [if_pos left]
  obtain ⟨digest,found⟩ := own
  obtain ⟨digest',found'⟩ := formed
  have other : (some digest' == some digest) = false := by
    refine beq_eq_false_iff_ne.mpr fun same => partial' (.inr ?_)
    rw [Option.some.inj same] at found'
    exact cgroup_perm injective found' found
  refine (lift_leads found').throws ((lift_leads found).throws ?_)
  rw [other]
  exact ⟨rfl,rfl⟩

structure Ended (w : World ω) (s t : Driver ω) : Prop where
  later : w.Later s.world t.world
  members : w.members t.world = []
  stopped : w.stopped t.world = true
  journal : t.journal = s.journal

theorem members_of_read (answered : (w.readCgroup x).1 = .ok cgroup) :
    (∀ group ∈ cgroup, w.members x = group.processes) ∧ (cgroup = none → w.members x = []) := by
  simp only [World.members,answered]
  cases cgroup with
  | none => simp
  | some group => simp

theorem isEmpty_of_read (answered : (w.readCgroup x).1 = .ok cgroup)
    (formed : ∀ group ∈ cgroup, Formed sha256 group) : isEmpty cgroup ↔ w.members x = [] := by
  obtain ⟨ofSome,ofNone⟩ := members_of_read answered
  cases cgroup with
  | none => simp [isEmpty,ofNone rfl]
  | some group => rw [(formed group rfl).isEmpty_iff,ofSome group rfl]

variable {first : ω} {before : Cgroup} {start deadline : Int} {s : Driver ω}

/-- The wait after its deadline, over an empty group. -/
theorem expire_leads (exiting : w.Exiting sha256 first limit) (reached : w.Later first s.world)
    (late : limit ≤ w.time s.world) :
    ∃ t, Leads (expire w sha256 before) s ⟨false,0⟩ t ∧ Ended w s t := by
  obtain ⟨cgroup,answered,formed⟩ := exiting.reads _ reached
  obtain ⟨empty,stopped⟩ := exiting.ended _ reached late
  have exits := exiting.exits _ _ reached .read
  refine ⟨s.move (w.readCgroup s.world).2 (.members cgroup),Leads.bind (read_leads answered) ?_,.single .read,
    exits.empty empty,exits.stopped stopped,rfl⟩
  cases cgroup with
  | none => exact ⟨rfl,rfl⟩
  | some group =>
    refine (requireMembers_leads (formed group rfl)).bind ?_
    have none' : group.processCount = 0 := by
      rw [(formed group rfl).shape.1,← (members_of_read answered).1 group rfl,empty]
      rfl
    rw [if_pos none']
    exact ⟨rfl,rfl⟩

structure Turned (w : World ω) (limit : Int) (s t : Driver ω) : Prop where
  world : t.world = w.turn s.world
  journal : t.journal = s.journal
  early : w.time s.world < limit

/-- One program from a state ends as another one from another state. -/
def Continues {α : Type} (m : Action ω α) (s : Driver ω) (rest : Action ω α) (t : Driver ω) : Prop :=
  (m s).result = (rest t).result ∧ (m s).state = (rest t).state

theorem Continues.bind {m : Action ω α} {f : α → Action ω β} {rest : Action ω β}
    {a : α} (leads : Leads m s a t) (continues : Continues (f a) t rest u) : Continues (m >>= f) s rest u := by
  obtain ⟨result,state⟩ := leads.bind_eq (f := f)
  exact ⟨result.trans continues.1,state.trans continues.2⟩

theorem Continues.seq {m rest : Action ω α} (continues : Continues m s rest t)
    (f : α → Action ω β) : Continues (m >>= f) s (rest >>= f) t := by
  have unfolded : (m >>= f) s = Program.bind m f s := rfl
  have unfolded' : (rest >>= f) t = Program.bind rest f t := rfl
  obtain ⟨result,state⟩ := continues
  rw [Continues,unfolded,unfolded',Program.bind,Program.bind,result,state]
  cases (rest t).result with
  | error => exact ⟨rfl,rfl⟩
  | ok => exact ⟨rfl,rfl⟩

/-- A turn that meets all of the tree or none of it ends the wait well, or the wait goes on. -/
theorem poll_whole (exiting : w.Exiting sha256 first (start + deadline)) (own : Formed sha256 before)
    (reached : w.Later first s.world) (whole : Whole before (w.polled s.world)) (turns : Nat) :
    (w.members (w.turn s.world) = [] ∧
      ∃ t, Leads (poll w sha256 before start deadline (turns + 1)) s (some ⟨false,0⟩) t ∧ Ended w s t) ∨
    ∃ t, Turned w (start + deadline) s t ∧
      Continues (poll w sha256 before start deadline (turns + 1)) s (poll w sha256 before start deadline turns) t := by
  obtain ⟨manager,shown⟩ := exiting.shows _ reached
  have reached' := reached.trans (later_shown s.world)
  obtain ⟨cgroup,answered,formed⟩ := exiting.reads _ reached'
  obtain ⟨ofSome,-⟩ := members_of_read answered
  have shows : Leads (showUnit w) s manager (s.move (w.showUnit s.world).2 (.shown manager)) := read_leads shown
  generalize shownAt : s.move (w.showUnit s.world).2 (.shown manager) = t at shows
  have world : t.world = (w.showUnit s.world).2 := by rw [← shownAt,move_world]
  have reads : Leads (readCgroup w) t cgroup (t.move (w.readCgroup t.world).2 (.members cgroup)) :=
    read_leads (by rw [world,answered])
  generalize readAt : t.move (w.readCgroup t.world).2 (.members cgroup) = u at reads
  have world' : u.world = (w.readCgroup (w.showUnit s.world).2).2 := by rw [← readAt,move_world,world]
  have journal : u.journal = s.journal := by rw [← readAt,move_journal,← shownAt,move_journal]
  have checks : Leads (checkMembers sha256 before cgroup) u () u :=
    checkMembers_leads own formed fun group there => ofSome group there ▸ whole
  by_cases quiet : (isStopped manager && isEmpty cgroup)
  · left
    have both := quiet
    rw [Bool.and_eq_true,isEmpty_of_read answered formed] at both
    have stopped : w.stopped s.world := by simp [World.stopped,shown,both.1]
    have exits := exiting.later reached (later_read s.world)
    have turn : w.Later (w.showUnit s.world).2 (w.turn s.world) :=
      ((Relation.ReflTransGen.single .read).tail .asked).tail .slept
    refine ⟨(exiting.later reached' turn).empty both.2,u,shows.bind (reads.bind (checks.bind ?_)),?_⟩
    · rw [if_pos quiet]
      exact ⟨rfl,rfl⟩
    · refine ⟨world' ▸ later_read s.world,?_,world' ▸ exits.stopped stopped,journal⟩
      exact world' ▸ (exiting.exits _ _ reached' .read).empty both.2
  have asks : Leads (nowMs w) u (w.time u.world) (u.move (w.now u.world).2 (.time (w.time u.world))) := ⟨rfl,rfl⟩
  generalize askedAt : u.move (w.now u.world).2 (.time (w.time u.world)) = v at asks
  have later : w.Later s.world v.world := by
    rw [← askedAt,move_world,world']
    exact later_asked s.world
  have journal' : v.journal = s.journal := by rw [← askedAt,move_journal,journal]
  by_cases late : deadline ≤ w.time u.world - start
  · left
    have asked := (exiting.exits u.world _ (reached.trans (world' ▸ later_read s.world)) .asked).time
    have world'' : v.world = (w.now u.world).2 := by rw [← askedAt,move_world]
    have late' : start + deadline ≤ w.time v.world := by rw [world'']; omega
    obtain ⟨t',expires,ended⟩ := expire_leads exiting (reached.trans later) late'
    have turn : w.turn s.world = w.sleep v.world := by rw [world'',world']; rfl
    have slept := exiting.exits v.world _ (reached.trans later) .slept
    have empty := slept.empty (exiting.ended _ (reached.trans later) late').1
    refine ⟨turn ▸ empty,t',shows.bind (reads.bind (checks.bind ?_)),later.trans ended.later,ended.members,ended.stopped,
      ended.journal.trans journal'⟩
    rw [if_neg quiet]
    refine asks.bind ?_
    rw [if_pos late]
    exact expires.bind ⟨rfl,rfl⟩
  · right
    have early := (exiting.later reached (later_read s.world)).time
    refine ⟨v.move (w.sleep v.world) .slept,⟨?_,journal',?_⟩,?_⟩
    · rw [move_world,← askedAt,move_world,world']
      rfl
    · rw [world'] at late
      omega
    · refine Continues.bind shows (Continues.bind reads (Continues.bind checks ?_))
      rw [if_neg quiet]
      refine Continues.bind asks ?_
      rw [if_neg late]
      exact ⟨rfl,rfl⟩

/-- Turns enough end a wait that meets no part of the tree. -/
theorem poll_ends (exiting : w.Exiting sha256 first (start + deadline)) (own : Formed sha256 before) (turns : Nat) :
    ∀ s : Driver ω, w.Later first s.world → (∀ k, Whole before (w.polled (w.turn^[k] s.world))) →
      (start + deadline - w.time s.world).toNat < turns →
      ∃ t, Leads (poll w sha256 before start deadline turns) s (some ⟨false,0⟩) t ∧ Ended w s t := by
  induction turns with
  | zero =>
    intro s _ _ none
    omega
  | succ turns ih =>
    intro s reached whole enough
    rcases poll_whole exiting own reached (whole 0) turns with ⟨-,ended⟩ | ⟨t,turned,continues⟩
    · exact ended
    have later : w.Later s.world t.world := turned.world ▸ later_turn s.world
    have early := turned.early
    have asked := (exiting.later reached (later_asked s.world)).time
    have slept := exiting.sleeps _ (reached.trans (later_asked s.world))
    have time : w.time s.world < w.time t.world := by
      rw [turned.world]
      exact asked.trans_lt slept
    have whole' : ∀ k, Whole before (w.polled (w.turn^[k] t.world)) := by
      intro k
      rw [turned.world,← Function.iterate_succ_apply]
      exact whole (k + 1)
    obtain ⟨u,leads,ended⟩ := ih t (reached.trans later) whole' (by omega)
    exact ⟨u,⟨continues.1.trans leads.result,continues.2.trans leads.state⟩,later.trans ended.later,ended.members,
      ended.stopped,ended.journal.trans turned.journal⟩

theorem later_turns (x : ω) (k : Nat) : w.Later x (w.turn^[k] x) := by
  induction k with
  | zero => exact .refl
  | succ k ih =>
    rw [Function.iterate_succ_apply']
    exact ih.trans (later_turn _)

/-- A poll that meets a part of the tree ends the wait. -/
theorem poll_throws (injective : InjectiveOnCanonical sha256) (exiting : w.Exiting sha256 first (start + deadline))
    (own : Formed sha256 before) (reached : w.Later first s.world) (partial' : ¬Whole before (w.polled s.world))
    (turns : Nat) :
    ∃ t, Throws (poll w sha256 before start deadline (turns + 1)) s
      (.service .manualCleanup true (some .treeNotQuiescent)) t := by
  obtain ⟨manager,shown⟩ := exiting.shows _ reached
  obtain ⟨cgroup,answered,formed⟩ := exiting.reads _ (reached.trans (later_shown s.world))
  obtain ⟨ofSome,ofNone⟩ := members_of_read answered
  obtain ⟨t,reads⟩ : ∃ t, Leads (readCgroup w) (s.move (w.showUnit s.world).2 (.shown manager)) cgroup t :=
    ⟨_,read_leads answered⟩
  cases cgroup with
  | none => exact absurd (.inl (ofNone rfl)) partial'
  | some group =>
    refine ⟨t,(read_leads shown).throws (reads.throws (Throws.bind ?_))⟩
    exact checkMembers_throws injective own (formed group rfl) (ofSome group rfl ▸ partial')

/-- A wait that meets a part of the tree does not end well. -/
theorem poll_part (injective : InjectiveOnCanonical sha256) (exiting : w.Exiting sha256 first (start + deadline))
    (own : Formed sha256 before) (turns : Nat) :
    ∀ s : Driver ω, w.Later first s.world → (∃ k, ¬Whole before (w.polled (w.turn^[k] s.world))) →
      ∀ stopped, (poll w sha256 before start deadline turns s).result ≠ .ok (some stopped) := by
  induction turns with
  | zero =>
    intro s _ _ stopped ok
    cases ok
  | succ turns ih =>
    rintro s reached ⟨k,partial'⟩ stopped ok
    by_cases whole : Whole before (w.polled s.world)
    swap
    · obtain ⟨t,throws⟩ := poll_throws injective exiting own reached whole turns
      rw [throws.result] at ok
      cases ok
    have positive : k ≠ 0 := fun zero => partial' (by rwa [zero])
    obtain ⟨k,rfl⟩ := Nat.exists_eq_succ_of_ne_zero positive
    rcases poll_whole exiting own reached whole turns with ⟨empty,-⟩ | ⟨t,turned,continues⟩
    · -- what is left at the end of a wait is left at each later poll
      refine partial' (.inl ?_)
      have reached' := reached.trans (later_turn s.world)
      exact (exiting.later reached' ((later_turns _ k).trans (later_shown _))).empty empty
    · refine ih t ?_ ⟨k,?_⟩ stopped (continues.1 ▸ ok)
      · rw [turned.world]
        exact reached.trans (later_turn s.world)
      · rwa [turned.world,← Function.iterate_succ_apply]

theorem journalAppend_leads
    (head : s.journal.getLast? = some previous) (next : follows previous ⟨phase,substep⟩)
    (appends : (w.append ⟨phase,substep⟩ s.world).1 = .ok ()) :
    ∃ t, Leads (journalAppend w phase substep) s () t ∧ t.world = (w.append ⟨phase,substep⟩ s.world).2 ∧
      t.journal.getLast? = some ⟨phase,substep⟩ := by
  have split' : w.append ⟨phase,substep⟩ s.world = (.ok (),(w.append ⟨phase,substep⟩ s.world).2) := by rw [← appends]
  have found : Leads latest s previous s := ⟨by simp [latest,inspect,head],rfl⟩
  refine ⟨{s with world := (w.append ⟨phase,substep⟩ s.world).2,journal := s.journal ++ [Entry.mk phase substep]}.note
    (.appended ⟨phase,substep⟩),found.bind ((require_leads next).bind ⟨?_,?_⟩),rfl,by simp [Driver.note]⟩
  · simp only [appendRecord,perform]
    rw [split']
  · simp only [appendRecord,perform]
    rw [split']

/-- The records of a quiescent service, after the end of a tree. -/
theorem confirm_leads (exiting : w.Exiting sha256 first limit) (reached : w.Later first s.world)
    (empty : w.members s.world = []) (stopped : w.stopped s.world)
    (head : s.journal.getLast? = some ⟨.stopping,.action⟩) : ∃ t, Leads (confirm w sha256) s () t := by
  obtain ⟨manager,shown⟩ := exiting.shows _ reached
  have reached' := reached.trans (later_shown s.world)
  obtain ⟨cgroup,answered,formed⟩ := exiting.reads _ reached'
  have quiet : (isStopped manager && isEmpty cgroup) := by
    rw [Bool.and_eq_true,isEmpty_of_read answered formed]
    refine ⟨?_,(exiting.exits _ _ reached .shown).empty empty⟩
    simpa [World.stopped,shown] using stopped
  have shows : Leads (showUnit w) s manager (s.move (w.showUnit s.world).2 (.shown manager)) := read_leads shown
  obtain ⟨t,reads,world,journal⟩ : ∃ t : Driver ω,
      Leads (readCgroup w) (s.move (w.showUnit s.world).2 (.shown manager)) cgroup t ∧
      t.world = (w.readCgroup (w.showUnit s.world).2).2 ∧ t.journal = s.journal :=
    ⟨_,read_leads answered,rfl,rfl⟩
  have later : w.Later first t.world := world ▸ reached'.tail .read
  have head' : t.journal.getLast? = some ⟨.stopping,.action⟩ := by rw [journal,head]
  obtain ⟨u,observed,uWorld,uHead⟩ := journalAppend_leads head' (by decide)
    (exiting.appends _ later ⟨.stopping,.observed⟩)
  have later' : w.Later first u.world := uWorld ▸ later.tail (.appended _)
  obtain ⟨v,intent,vWorld,vHead⟩ := journalAppend_leads uHead (by decide) (exiting.appends _ later' ⟨.quiescent,.intent⟩)
  have later'' : w.Later first v.world := vWorld ▸ later'.tail (.appended _)
  obtain ⟨z,last,-,-⟩ := journalAppend_leads vHead (by decide) (exiting.appends _ later'' ⟨.quiescent,.observed⟩)
  refine ⟨z,shows.bind (reads.bind ((forM_leads fun group there => requireMembers_leads (formed group there)).bind ?_))⟩
  exact (require_leads quiet).bind (observed.bind (intent.bind last))

end Runs

section Calls

variable {ω : Type}

/-- After the stop that is issued next, the processes of a tree do nothing but exit before the deadline. -/
structure World.Graceful (w : World ω) (sha256 : List UInt8 → Units) (before : Cgroup) (deadline : Int) (x : ω) :
    Prop where
  issued : (w.stop x).1 = .ok 0
  tree : ∀ process ∈ w.members (w.stop x).2, process ∈ before.processes
  exiting : w.Exiting sha256 (w.stop x).2 (w.time (w.stop x).2 + deadline)

def Event.isStop : Event → Bool
  | .stop => true
  | _ => false

def Event.isStopAction : Event → Bool
  | .appended ⟨.stopping,.action⟩ => true
  | _ => false

variable {cfg : Config}

/-- Each stop has an action record of its own. -/
theorem stops_le (lawful : Lawful cfg trace) :
    trace.countP Event.isStop ≤ trace.countP Event.isStopAction ∧ (trace.head?.any Event.isStopAction →
        trace.countP Event.isStop < trace.countP Event.isStopAction) := by
  induction trace with
  | nil => simp
  | cons event trace ih =>
    obtain ⟨guarded,past⟩ := lawful
    obtain ⟨le,lt⟩ := ih past
    cases stop : event.isStop with
    | false =>
      rw [countP_cons_of_neg (by simp [stop])]
      cases action : event.isStopAction with
      | false => exact ⟨by rwa [countP_cons_of_neg (by simp [action])],fun head => by simp [action] at head⟩
      | true =>
        rw [countP_cons_of_pos action]
        exact ⟨by omega,fun _ => by omega⟩
    | true =>
      cases event with
      | stop =>
        obtain ⟨cgroup,manager,facts,tree,earlier,begun,-⟩ := guarded
        have before := lt (by rw [begun]; rfl)
        rw [countP_cons_of_pos rfl,countP_cons_of_neg (by simp [Event.isStopAction])]
        exact ⟨by omega,fun head => by simp [Event.isStopAction] at head⟩
      | _ => simp [Event.isStop] at stop

variable {w : World ω} {s : Driver ω}

/-- What a start has found, of a lawful past. -/
theorem startStop_found (injective : InjectiveOnCanonical sha256) (past : Lawful cfg s.trace)
    (bound : (startStop w cfg sha256 input s).result = .ok (.bound before deadline)) :
    Formed sha256 before ∧
      (startStop w cfg sha256 input s).state.journal.getLast? = some ⟨.stopping,.action⟩ := by
  have start : Keeps cfg (Past cfg) (startStop w cfg sha256 input) (Started cfg sha256) :=
    startStop_started w injective input
  have started := (start s ⟨past,trivial⟩).2
  rw [bound] at started
  exact ⟨started.2.1,started.1.2⟩

/-- The wait of a stop that was issued. -/
theorem stopTree_waits (sha256 : List UInt8 → Units) (before : Cgroup) (deadline : Int)
    (issued : (w.stop s.world).1 = .ok 0) (turns : Nat) :
    ∃ t : Driver ω, t.world = (w.now (w.stop s.world).2).2 ∧ t.journal = s.journal ∧
      Continues (stopTree w sha256 before deadline turns) s
        (poll w sha256 before (w.time (w.stop s.world).2) deadline turns) t := by
  have acts : Leads (act .stop w.stop) s 0 (s.move (w.stop s.world).2 .stop) := ⟨issued,rfl⟩
  have waits : Leads (startWait w deadline) (s.move (w.stop s.world).2 .stop) (w.time (w.stop s.world).2)
      ((s.move (w.stop s.world).2 .stop).move (w.now (w.stop s.world).2).2
        (.started (w.time (w.stop s.world).2) deadline)) := ⟨rfl,rfl⟩
  refine ⟨(s.move (w.stop s.world).2 .stop).move (w.now (w.stop s.world).2).2
    (.started (w.time (w.stop s.world).2) deadline),rfl,rfl,?_⟩
  exact Continues.bind acts (Continues.bind (require_leads rfl) (Continues.bind waits ⟨rfl,rfl⟩))

/-- A call that stops a tree, by the wait for its end. -/
theorem stopAndQuiesce_waits (bound : (startStop w cfg sha256 input s).result = .ok (.bound before deadline))
    (issued : (w.stop (startStop w cfg sha256 input s).state.world).1 = .ok 0) (turns : Nat) :
    ∃ t : Driver ω, t.world = (w.now (w.stop (startStop w cfg sha256 input s).state.world).2).2 ∧
      t.journal = (startStop w cfg sha256 input s).state.journal ∧
      Continues (stopAndQuiesce w cfg sha256 input turns) s
        (poll w sha256 before (w.time (w.stop (startStop w cfg sha256 input s).state.world).2) deadline turns >>=
          finishStop w sha256) t := by
  obtain ⟨t,world,journal,continues⟩ := stopTree_waits sha256 before deadline issued turns
  exact ⟨t,world,journal,Continues.bind ⟨bound,rfl⟩ (continues.seq (finishStop w sha256))⟩

/-- A call whose wait meets a part of the tree does not end. -/
theorem stopAndQuiesce_part (injective : InjectiveOnCanonical sha256) (own : Formed sha256 before)
    (bound : (startStop w cfg sha256 input s).result = .ok (.bound before deadline))
    (graceful : w.Graceful sha256 before deadline (startStop w cfg sha256 input s).state.world)
    (parts : ∃ k, ¬Whole before
      (w.polled (w.turn^[k] (w.now (w.stop (startStop w cfg sha256 input s).state.world).2).2)))
    (turns : Nat) (stopped : Stopped) :
    (stopAndQuiesce w cfg sha256 input turns s).result ≠ .ok (some stopped) := by
  intro ok
  obtain ⟨t,world,journal,continues⟩ := stopAndQuiesce_waits bound graceful.issued turns
  rw [← world] at parts
  have asked : w.Later (w.stop (startStop w cfg sha256 input s).state.world).2 t.world := world ▸ .single .asked
  have never := poll_part injective graceful.exiting own turns t asked parts
  rw [continues.1] at ok
  cases polled : (poll w sha256 before (w.time (w.stop (startStop w cfg sha256 input s).state.world).2) deadline turns
      t).result with
  | error error =>
    have throws : Throws (poll w sha256 before (w.time _) deadline turns) t error _ := ⟨polled,rfl⟩
    rw [throws.bind.result] at ok
    cases ok
  | ok found =>
    cases found with
    | some found => exact never found polled
    | none =>
      have goes : Leads (poll w sha256 before (w.time _) deadline turns) t none _ := ⟨polled,rfl⟩
      rw [(goes.bind ⟨rfl,rfl⟩ : Leads _ t none _).result] at ok
      cases ok

/-- What a call leaves on a lawful past is lawful: a stop is issued under an action record of its own, for
a control group that is bound; a termination after the deadline, for the members of the group before the stop;
and the record of a quiescent service follows reads of a stopped unit and an empty group. A tree whose
processes then do nothing but exit ends the call well if and only if no poll meets a part of it. -/
theorem stopAndQuiesce_bound (injective : InjectiveOnCanonical sha256) (w : World ω)
    (cfg : Config) (input : Input) (s : Driver ω) (past : Lawful cfg s.trace) :
    (∀ turns,Lawful cfg (stopAndQuiesce w cfg sha256 input turns s).state.trace ∧
      (stopAndQuiesce w cfg sha256 input turns s).state.trace.countP Event.isStop ≤
        (stopAndQuiesce w cfg sha256 input turns s).state.trace.countP Event.isStopAction) ∧
    ∀ before deadline, (startStop w cfg sha256 input s).result = .ok (.bound before deadline) →
      w.Graceful sha256 before deadline (startStop w cfg sha256 input s).state.world →
      ((∃ enough, ∀ turns, enough ≤ turns →
          (stopAndQuiesce w cfg sha256 input turns s).result = .ok (some ⟨false,0⟩)) ↔ ∀ k, Whole before
          (w.polled (w.turn^[k] (w.now (w.stop (startStop w cfg sha256 input s).state.world).2).2))) := by
  refine ⟨fun turns => ?_,fun before deadline bound graceful => ?_⟩
  · have ends := (stopAndQuiesce_past w injective input turns s ⟨past,trivial⟩).2
    have lawful : Lawful cfg (stopAndQuiesce w cfg sha256 input turns s).state.trace := by
      split at ends
      · exact ends.1
      · exact ends
    exact ⟨lawful,(stops_le lawful).1⟩
  obtain ⟨own,head⟩ := startStop_found injective past bound
  constructor
  · rintro ⟨enough,ends⟩
    by_contra parts
    rw [not_forall] at parts
    exact stopAndQuiesce_part injective own bound graceful parts enough _ (ends enough (le_refl _))
  · intro whole
    obtain ⟨issued,-,exiting⟩ := graceful
    generalize x : (w.stop (startStop w cfg sha256 input s).state.world).2 = first at *
    have asked : w.Later first (w.now first).2 := .single .asked
    refine ⟨(w.time first + deadline - w.time (w.now first).2).toNat + 1,fun turns enough => ?_⟩
    obtain ⟨t,world,journal,continues⟩ := stopAndQuiesce_waits bound issued turns
    rw [x] at world continues
    obtain ⟨u,polls,ended⟩ := poll_ends exiting own turns t (world ▸ asked) (world ▸ whole) (by rw [world]; omega)
    obtain ⟨z,confirms⟩ := confirm_leads exiting ((world ▸ asked).trans ended.later) ended.members ended.stopped
      (by rw [ended.journal,journal,head])
    rw [continues.1]
    exact (polls.bind (confirms.bind ⟨rfl,rfl⟩)).result

/-! A tree of two processes, of which the second one exits first, or both at once. -/

def mainProcess : Process :=
  ⟨10,1,ofString "1",ofString "/usr/bin/node",ofString "service",ofString "S",0⟩

def childProcess : Process :=
  ⟨11,10,ofString "1",ofString "/usr/bin/node",ofString "service",ofString "S",1⟩

def oneByOne : Nat → List Process
  | 0 => [mainProcess,childProcess]
  | 1 => [mainProcess]
  | _ => []

def allAtOnce : Nat → List Process
  | 0 => [mainProcess,childProcess]
  | _ => []

def exitDigest : List UInt8 → Units :=
  recorded [(membersRecord "linux-cgroup-members/v2" [mainProcess,childProcess],
      0xd97b51ba6bc921b3a4e0d4576d88313786f5e8908e3b4788d26677d2861fe217),
    (membersRecord "linux-cgroup-members/v2" [mainProcess],
      0x30580a0395d2ab35f2ec1c38da28065d4c95cbec795e0959502580b7fb423390),
    (membersRecord "linux-cgroup-members/v2" [],
      0x94da5206113a8c17766e8a60ee0823bc8262c50475e3cc6b221d5a013418c419),
    (membersRecord "linux-process-members/v2" [mainProcess,childProcess],
      0x8a578cb6240d7a8b11d61f82d18b70e77b64078ea4279006129e8d836ff8e6c5)]

def exitGroup (processes : List Process) : Cgroup :=
  ⟨⟨ofString "1",ofString "2"⟩,processes,hexUnits 64 1,processes.length⟩

def exitManager : List Process → Manager
  | [] => ⟨"inactive",some 0,none⟩
  | _ => ⟨"active",some 10,some (ofString "0123456789abcdef0123456789abcdef")⟩

def exitWorld (left : Nat → List Process) : World Nat where
  showUnit x := (.ok (exitManager (left x)),x)
  readCgroup x := (.ok (some (exitGroup (left x))),x)
  readProcessFacts _ x := (.ok (some mainProcess),x)
  enumerateTree _ x := (.ok ⟨left x,hexUnits 64 1,(left x).length⟩,x)
  stop x := (.ok 0,x)
  terminate _ _ x := (.error (.service .ioFailed true none),x)
  probe x := (.ok ⟨true,[],hexUnits 64 2,exitManager (left x)⟩,x)
  receipts x := (.ok (),x)
  append _ x := (.ok (),x)
  now x := (100 * x,x)
  sleep x := x + 1

def exitConfig : Config := ⟨ofString "/usr/bin/node",ofString "service",⟨some (hexUnits 64 2),none,none⟩⟩

def exitDriver : Driver Nat := ⟨0,[⟨.activationObserved,.observed⟩],false,fun _ => none,true,[]⟩

theorem exitDigest_injective : InjectiveOnCanonical exitDigest := recorded_injective (by decide +kernel)

theorem ok_of_toOption {ε α : Type} {result : Except ε α} {a : α} (found : result.toOption = some a) :
    result = .ok a := by
  cases result with
  | ok b => exact congrArg Except.ok (Option.some.inj found)
  | error => cases found

theorem exitGroups_formed : ([[mainProcess,childProcess],[mainProcess],[]].all fun processes =>
    ((cgroupMemberFingerprint exitDigest (exitGroup processes)).toOption.bind id).isSome) = true := by
  decide +kernel

theorem exitGroup_formed
    (known : processes ∈ [[mainProcess,childProcess],[mainProcess],[]]) : Formed exitDigest (exitGroup processes) := by
  have found := all_eq_true.mp exitGroups_formed processes known
  rw [Option.isSome_iff_exists] at found
  obtain ⟨digest,own⟩ := found
  obtain ⟨digest',ok,rfl⟩ := Option.bind_eq_some_iff.mp own
  exact ⟨digest,ok_of_toOption ok⟩

structure Leaving (left : Nat → List Process) : Prop where
  known : ∀ n, left n ∈ [[mainProcess,childProcess],[mainProcess],[]]
  exits : ∀ n, ∀ process ∈ left (n + 1), process ∈ left n
  ended : ∀ n, 350 ≤ n → left n = []

theorem exitWorld_exiting (leaving : Leaving left) (first : Nat) :
    (exitWorld left).Exiting exitDigest first 35000 where
  shows x _ := ⟨_,rfl⟩
  reads x _ := ⟨_,rfl,by rintro group ⟨⟩; exact exitGroup_formed (leaving.known x)⟩
  appends _ _ _ := rfl
  exits x y _ next := by
    cases next with
    | slept =>
      refine ⟨leaving.exits x,fun stopped => ?_,by simp only [World.time,exitWorld]; omega⟩
      have none : left x = [] := by
        by_contra some'
        obtain ⟨process,rest,there⟩ := exists_cons_of_ne_nil some'
        simp [World.stopped,exitWorld,exitManager,there,isStopped] at stopped
      have none' : left (x + 1) = [] := eq_nil_iff_forall_not_mem.mpr fun process there => by
        simpa [none] using leaving.exits x process there
      simp [World.stopped,exitWorld,exitManager,none',isStopped]
    | _ => exact ⟨fun _ there => there,fun there => there,le_refl _⟩
  sleeps x _ := by
    simp only [World.time,exitWorld]
    omega
  ended x _ late := by
    simp only [World.time,exitWorld] at late
    have none : left x = [] := leaving.ended x (by omega)
    simp [World.members,World.stopped,exitWorld,exitGroup,exitManager,none,isStopped]

theorem oneByOne_leaving : Leaving oneByOne := by
  refine ⟨?_,?_,?_⟩
  · rintro (_ | _ | n) <;> simp [oneByOne]
  · rintro (_ | _ | n) <;> simp [oneByOne]
  · rintro (_ | _ | n) late
    · omega
    · omega
    · rfl

theorem allAtOnce_leaving : Leaving allAtOnce := by
  refine ⟨?_,?_,?_⟩
  · rintro (_ | n) <;> simp [allAtOnce]
  · rintro (_ | n) <;> simp [allAtOnce]
  · rintro (_ | n) late
    · omega
    · rfl

theorem exit_starts : ([oneByOne,allAtOnce].all fun left =>
    let start := startStop (exitWorld left) exitConfig exitDigest ⟨none,none⟩ exitDriver
    start.result.toOption = some (.bound (exitGroup [mainProcess,childProcess]) 35000) && start.state.world = 0) =
      true := by
  decide +kernel

/-- The start of the stop, and what follows it. -/
theorem exit_bound (left : Nat → List Process) (known : left ∈ [oneByOne,allAtOnce]) :
    (startStop (exitWorld left) exitConfig exitDigest ⟨none,none⟩ exitDriver).result =
        .ok (.bound (exitGroup [mainProcess,childProcess]) 35000) ∧
      (startStop (exitWorld left) exitConfig exitDigest ⟨none,none⟩ exitDriver).state.world = 0 := by
  have started := all_eq_true.mp exit_starts left known
  simp only [Bool.and_eq_true,decide_eq_true_eq] at started
  exact ⟨ok_of_toOption started.1,started.2⟩

theorem exit_graceful (left : Nat → List Process) (known : left ∈ [oneByOne,allAtOnce]) :
    (exitWorld left).Graceful exitDigest (exitGroup [mainProcess,childProcess]) 35000 0 := by
  have leaving : Leaving left ∧ left 0 = [mainProcess,childProcess] := by
    simp only [mem_cons,not_mem_nil,or_false] at known
    rcases known with rfl | rfl
    · exact ⟨oneByOne_leaving,rfl⟩
    · exact ⟨allAtOnce_leaving,rfl⟩
  refine ⟨rfl,fun process there => ?_,?_⟩
  · simpa [World.members,exitWorld,exitGroup,leaving.2] using there
  · have time : (exitWorld left).time ((exitWorld left).stop 0).2 + 35000 = 35000 := by simp [World.time,exitWorld]
    rw [time]
    exact exitWorld_exiting leaving.1 0

theorem exit_polled (left : Nat → List Process) (k : Nat) :
    (exitWorld left).polled ((exitWorld left).turn^[k] ((exitWorld left).now ((exitWorld left).stop 0).2).2) =
      left k := by
  have turns : (exitWorld left).turn^[k] 0 = k := by
    induction k with
    | zero => rfl
    | succ k ih => rw [Function.iterate_succ_apply',ih]; rfl
  change (exitWorld left).polled ((exitWorld left).turn^[k] 0) = left k
  rw [turns]
  rfl

theorem allAtOnce_stopped : InjectiveOnCanonical exitDigest ∧ Lawful exitConfig exitDriver.trace ∧
    ∃ enough, ∀ turns, enough ≤ turns →
      (stopAndQuiesce (exitWorld allAtOnce) exitConfig exitDigest ⟨none,none⟩ turns exitDriver).result =
        .ok (some ⟨false,0⟩) := by
  refine ⟨exitDigest_injective,trivial,?_⟩
  obtain ⟨bound,world⟩ := exit_bound allAtOnce (by simp)
  have graceful := exit_graceful allAtOnce (by simp)
  refine ((stopAndQuiesce_bound exitDigest_injective (exitWorld allAtOnce) exitConfig ⟨none,none⟩ exitDriver trivial).2
    _ _ bound (world ▸ graceful)).mpr fun k => ?_
  rw [world]
  have polled := exit_polled allAtOnce k
  cases k with
  | zero => exact .inr (polled ▸ .refl _)
  | succ k => exact .inl polled

def failureOf {α : Type} : Except Failure α → Option (Code × Bool × Option Reason)
  | .error (.service code ambiguous reason) => some (code,ambiguous,reason)
  | _ => none

theorem failureOf_eq
    (failed : failureOf result = some (code,ambiguous,reason)) : result = .error (.service code ambiguous reason) := by
  simp only [failureOf] at failed
  split at failed
  · cases failed
    rfl
  · cases failed

theorem oneByOne_fails :
    failureOf (stopAndQuiesce (exitWorld oneByOne) exitConfig exitDigest ⟨none,none⟩ 2 exitDriver).result =
      some (.manualCleanup,true,some .treeNotQuiescent) := by
  decide +kernel

/-- The processes of a tree exit one after the other within a fifth of a second, and no call ends well. -/
theorem oneByOne_not_stopped :
    (startStop (exitWorld oneByOne) exitConfig exitDigest ⟨none,none⟩ exitDriver).result =
        .ok (.bound (exitGroup [mainProcess,childProcess]) 35000) ∧
      (exitWorld oneByOne).Graceful exitDigest (exitGroup [mainProcess,childProcess]) 35000
        (startStop (exitWorld oneByOne) exitConfig exitDigest ⟨none,none⟩ exitDriver).state.world ∧
      (stopAndQuiesce (exitWorld oneByOne) exitConfig exitDigest ⟨none,none⟩ 2 exitDriver).result =
        .error (.service .manualCleanup true (some .treeNotQuiescent)) ∧
      ∀ turns stopped, (stopAndQuiesce (exitWorld oneByOne) exitConfig exitDigest ⟨none,none⟩ turns exitDriver).result ≠
        .ok (some stopped) := by
  obtain ⟨bound,world⟩ := exit_bound oneByOne (by simp)
  have graceful := exit_graceful oneByOne (by simp)
  rw [← world] at graceful
  refine ⟨bound,graceful,failureOf_eq oneByOne_fails,?_⟩
  refine stopAndQuiesce_part exitDigest_injective (exitGroup_formed (by simp)) bound graceful ⟨1,?_⟩
  rw [world,exit_polled]
  rintro (none | perm)
  · cases none
  · exact absurd perm.length_eq (by decide)

end Calls

end GjcRemote.ServiceLinux
