import GjcRemote.ServiceLinux

/-! A stop ends exactly the bound tree: what went before each call of the driver that acts, and
before the record of a quiescent service. -/
namespace GjcRemote.ServiceLinux

open Utf16 StrictJson Record Envelope List Except
open CrashTrace CrashTrace.Program

/-- The process is the live main process of the unit as it is configured, and the control group
holds its tree. -/
structure Bound (cfg : Config) (manager : Manager) (facts : Process) (tree : Tree) (cgroup : Cgroup) : Prop where
  live : manager.livePid.map (fun pid : Nat => (pid : Int)) = some facts.pid
  executable : facts.executable = cfg.runtimePath
  owner : facts.owner = cfg.expectedOwner
  tree : cgroup.processes.Perm tree.processes
  main : facts.pid ∈ cgroup.processes.map Process.pid

/-- The stop was issued for a control group, under an action record of its own. -/
def Stopping (cfg : Config) (cgroup : Cgroup) (trace : List Event) : Prop :=
  ∃ manager facts tree earlier,
    trace = .appended ⟨.stopping,.action⟩ :: .members (some cgroup) :: .tree tree :: .facts (some facts) ::
      .shown manager :: earlier ∧
    Bound cfg manager facts tree cgroup

def Event.isTurn : Event → Bool
  | .shown _ | .members _ | .time _ | .slept => true
  | _ => false

/-- The wait for the end of a control group that was stopped. -/
def Waiting (cfg : Config) (cgroup : Cgroup) (start deadline : Int) (trace : List Event) : Prop :=
  ∃ turns earlier, trace = turns ++ .started start deadline :: .stop :: earlier ∧
    (∀ event ∈ turns, event.isTurn = true) ∧ Stopping cfg cgroup earlier

/-- The deadline is over, and the members are those that were stopped. -/
def Expired (cfg : Config) (identity : Identity) (treeFingerprint : Units) (trace : List Event) : Prop :=
  ∃ before exact' start deadline now earlier,
    trace = .appended ⟨.stopping,.action⟩ :: .appended ⟨.stopping,.intent⟩ :: .appended ⟨.stopping,.observed⟩ ::
      .received :: .members (some exact') :: .time now :: earlier ∧
    Waiting cfg before start deadline earlier ∧ deadline ≤ now - start ∧
    identity = exact'.identity ∧ treeFingerprint = exact'.treeFingerprint ∧
    exact'.processes.Perm before.processes

/-- The last reads found the unit stopped and its control group empty. -/
def Quiet (trace : List Event) : Prop :=
  ∃ cgroup manager earlier,
    trace = .appended ⟨.stopping,.observed⟩ :: .members cgroup :: .shown manager :: earlier ∧
    isStopped manager = true ∧ isEmpty cgroup = true

def Guard (cfg : Config) (event : Event) (trace : List Event) : Prop :=
  match event with
  | .stop => ∃ cgroup, Stopping cfg cgroup trace
  | .terminate identity treeFingerprint => Expired cfg identity treeFingerprint trace
  | .appended ⟨.quiescent,.intent⟩ => Quiet trace
  | .appended ⟨.quiescent,.observed⟩ => ∃ earlier, trace = .appended ⟨.quiescent,.intent⟩ :: earlier
  | _ => True

def Lawful (cfg : Config) : List Event → Prop
  | [] => True
  | event :: trace => Guard cfg event trace ∧ Lawful cfg trace

section Members

variable {sha256 : List UInt8 → Units}

theorem record_distinct (process : Process) : DistinctKeys process.record := by
  refine ⟨@names_nodup ["pid","parentPid","startTime","executable","owner","state","depth"] (by decide),?_⟩
  simp only [DistinctEntries,DistinctKeys,and_self]

theorem membersRecord_distinct (kind : String) (processes : List Process) :
    DistinctKeys (membersRecord kind processes) := by
  refine ⟨@names_nodup ["kind","members"] (by decide),?_⟩
  simp only [DistinctEntries,DistinctKeys,true_and,and_true]
  rw [distinctItems_iff,forall_mem_map]
  exact fun process _ => record_distinct process

theorem number_inj (same : Same (.number (.int n)) (.number (.int m))) : n = m := by
  cases same with
  | number read => simpa [readNumber] using read

theorem record_inj {process other : Process} (same : Same process.record other.record) : process = other := by
  cases process
  cases same with
  | object keys values =>
    have number (key : String) := fun x y => values (ofString key) (.number (.int x)) (.number (.int y))
    have text (key : String) := fun x y => values (ofString key) (.string x) (.string y)
    congr 1
    · exact number_inj (number "pid" _ _ (by simp) (by simp))
    · exact number_inj (number "parentPid" _ _ (by simp) (by simp))
    · exact Value.string.inj (same_string (text "startTime" _ _ (by simp) (by simp)))
    · exact Value.string.inj (same_string (text "executable" _ _ (by simp) (by simp)))
    · exact Value.string.inj (same_string (text "owner" _ _ (by simp) (by simp)))
    · exact Value.string.inj (same_string (text "state" _ _ (by simp) (by simp)))
    · exact number_inj (number "depth" _ _ (by simp) (by simp))

theorem membersRecord_inj
    (same : Same (membersRecord kind processes) (membersRecord kind others)) : byPid processes = byPid others := by
  cases same with
  | object keys values =>
    have members := values (ofString "members") (.array ((byPid processes).map Process.record))
      (.array ((byPid others).map Process.record)) (by simp) (by simp)
    cases members with
    | array length items =>
      refine ext_getElem (by simpa using length) fun i left right => ?_
      exact record_inj (items i _ _ (by simp [left]) (by simp [right]))

section

variable (injective : InjectiveOnCanonical sha256)
include injective

/-- Two lists of processes with one fingerprint have the same processes. -/
theorem fingerprint_perm (left : membersFingerprint sha256 kind processes = .ok digest)
    (right : membersFingerprint sha256 kind others = .ok digest) : processes.Perm others := by
  simp only [membersFingerprint] at left right
  cases hashed : canonicalJsonHash sha256 (membersRecord kind processes) with
  | error => simp [hashed] at left
  | ok own =>
    cases hashed' : canonicalJsonHash sha256 (membersRecord kind others) with
    | error => simp [hashed'] at right
    | ok own' =>
      simp only [hashed,hashed',ok.injEq] at left right
      have same : own = own' := Option.some.inj (left.trans right.symm)
      subst same
      simp only [canonicalJsonHash,except_bind_ok] at hashed hashed'
      obtain ⟨bytes,encoded,digested⟩ := hashed
      obtain ⟨bytes',encoded',digested'⟩ := hashed'
      have equal := injective _ _ _ _ encoded encoded' ((ok.inj digested).trans (ok.inj digested').symm)
      subst equal
      have members := membersRecord_inj
        (same_of_same_bytes ⟨_,membersRecord_distinct kind processes⟩ ⟨_,membersRecord_distinct kind others⟩ encoded encoded')
      have sorted := perm_insertionSort (fun left right : Process => left.pid ≤ right.pid)
      have first : (byPid processes).Perm processes := sorted processes
      have second : (byPid others).Perm others := sorted others
      exact first.symm.trans (members ▸ second)

/-- Two groups with members of one fingerprint that is there. -/
theorem cgroup_perm (left : cgroupMemberFingerprint sha256 cgroup = .ok (some digest))
    (right : cgroupMemberFingerprint sha256 other = .ok (some digest)) : cgroup.processes.Perm other.processes := by
  simp only [cgroupMemberFingerprint] at left right
  split at left
  · split at right
    · exact fingerprint_perm injective left right
    · cases right
  · cases left

theorem facts_perm (left : processFactsFingerprint sha256 processes = .ok (some digest))
    (right : processFactsFingerprint sha256 others = .ok (some digest)) : processes.Perm others := by
  simp only [processFactsFingerprint] at left right
  split at left
  · split at right
    · exact fingerprint_perm injective left right
    · cases right
  · cases left

end

end Members

/-- What is known of the past and of the head of the journal. -/
abbrev Assertion := List Event → Option Entry → Prop

def Holds {ω : Type} (known : Assertion) (s : Driver ω) : Prop := known s.trace s.journal.getLast?

section Rules

variable {ω α β : Type} {cfg : Config} {known known' : Assertion} {next : α → Assertion}

/-- From what is known the action leads to the next, and it fails in a lawful past. -/
def Keeps (cfg : Config) (known : Assertion) (m : Action ω α) (next : α → Assertion) : Prop :=
  Ensures (Holds known) (fun _ => True) m (fun a => Holds (next a)) fun _ s => Lawful cfg s.trace

def Knows (cfg : Config) (known : Assertion) : Prop := ∀ trace head, known trace head → Lawful cfg trace

theorem Keeps.bind (first : Keeps cfg known m next)
    (rest : ∀ a, Keeps cfg (next a) (f a) last) : Keeps cfg known (m >>= f) last :=
  Ensures.bind first rest

theorem Keeps.weaken (kept : Keeps cfg known' m next)
    (weaker : ∀ trace head, known trace head → known' trace head) : Keeps cfg known m next :=
  fun s start => kept s (weaker _ _ start)

theorem Keeps.never (none : ∀ trace head, ¬known trace head) : Keeps cfg known m next :=
  fun _ start => absurd start (none _ _)

theorem Keeps.strengthen (kept : Keeps cfg known m next)
    (stronger : ∀ a trace head, next a trace head → next' a trace head) : Keeps cfg known m next' := by
  intro s start
  obtain ⟨crashes,ends⟩ := kept s start
  refine ⟨crashes,?_⟩
  cases result : (m s).result with
  | ok a =>
    rw [result] at ends
    exact stronger a _ _ ends
  | error => rwa [result] at ends

theorem Keeps.pure (reached : ∀ trace head, known trace head → next a trace head) :
    Keeps cfg known (Pure.pure a : Action ω α) next :=
  Ensures.pure fun _ start => reached _ _ start

section

variable (lawful : Knows cfg known)
include lawful

theorem Keeps.refuse (code : Code) (reason : Option Reason) (ambiguous : Bool) :
    Keeps cfg known (refuse code reason ambiguous : Action ω α) next :=
  Ensures.fail fun _ start => lawful _ _ start

theorem Keeps.require (ok : Bool) (code : Code) (reason : Option Reason) (ambiguous : Bool) :
    Keeps cfg known (require ok code reason ambiguous : Action ω Unit) fun _ trace head =>
      ok ∧ known trace head := by
  cases ok with
  | false => exact Keeps.refuse lawful code reason ambiguous
  | true => exact Keeps.pure fun _ _ start => ⟨rfl,start⟩

theorem Keeps.inspect (f : Driver ω → Except Failure α) :
    Keeps cfg known (Program.inspect f) fun a trace head =>
      (∃ s : Driver ω, f s = .ok a ∧ s.trace = trace ∧ s.journal.getLast? = head) ∧ known trace head :=
  Ensures.inspect (fun s _ start found => ⟨⟨s,found,rfl,rfl⟩,start⟩) fun _ _ start _ => lawful _ _ start

theorem Keeps.lift (result : Except Failure α) :
    Keeps cfg known (lift result : Action ω α) fun a trace head => result = .ok a ∧ known trace head :=
  Ensures.lift (fun _ _ start found => ⟨found,start⟩) fun _ _ start _ => lawful _ _ start

theorem Keeps.read (answer : ω → Except Failure α × ω) (event : α → Event)
    (plain : ∀ a trace head, known trace head → Guard cfg (event a) trace) :
    Keeps cfg known (read answer event : Action ω α) fun a trace head =>
      ∃ earlier, trace = event a :: earlier ∧ Lawful cfg trace ∧ known earlier head := by
  intro s start
  refine ⟨fun _ _ => trivial,?_⟩
  simp only [ServiceLinux.read,perform]
  cases answered : answer s.world with
  | mk result world =>
    cases result with
    | ok a => exact ⟨_,rfl,⟨plain a _ _ start,lawful _ _ start⟩,start⟩
    | error => exact lawful _ _ start

theorem Keeps.act (event : Event) (answer : ω → Except Failure α × ω)
    (guarded : ∀ trace head, known trace head → Guard cfg event trace) :
    Keeps cfg known (act event answer : Action ω α) fun _ trace head =>
      ∃ earlier, trace = event :: earlier ∧ Lawful cfg trace ∧ known earlier head := by
  intro s start
  refine ⟨fun _ _ => trivial,?_⟩
  have past : Lawful cfg (event :: s.trace) := ⟨guarded _ _ start,lawful _ _ start⟩
  simp only [ServiceLinux.act,perform]
  cases (answer s.world).1 with
  | ok => exact ⟨_,rfl,past,start⟩
  | error => exact past

theorem Keeps.latest :
    Keeps cfg known (latest : Action ω Entry) fun entry trace head => head = some entry ∧ known trace head := by
  refine Ensures.inspect (fun s entry start found => ?_) fun _ _ start _ => lawful _ _ start
  cases last : s.journal.getLast? with
  | none => simp [last] at found
  | some head =>
    simp only [last,ok.injEq] at found
    exact ⟨by rw [last,found],start⟩

end

def Appended (cfg : Config) (entry : Entry) (known : Assertion) : Assertion := fun trace head =>
  head = some entry ∧ ∃ earlier before, trace = .appended entry :: earlier ∧ Lawful cfg trace ∧ known earlier before

theorem Appended.knows : Knows cfg (Appended cfg entry known) := by
  rintro trace head ⟨-,earlier,before,-,lawful,-⟩
  exact lawful

theorem Keeps.appendRecord (lawful : Knows cfg known) (w : World ω) (entry : Entry)
    (guarded : ∀ trace head, known trace head → Guard cfg (.appended entry) trace) :
    Keeps cfg known (appendRecord w entry) fun _ => Appended cfg entry known := by
  intro s start
  refine ⟨fun _ _ => trivial,?_⟩
  have past : Lawful cfg (.appended entry :: s.trace) := ⟨guarded _ _ start,lawful _ _ start⟩
  simp only [ServiceLinux.appendRecord,perform]
  cases answered : w.append entry s.world with
  | mk result world =>
    cases result with
    | ok => exact ⟨by simp [Driver.note],_,_,rfl,past,start⟩
    | error => exact lawful _ _ start

theorem Keeps.journalAppend (lawful : Knows cfg known) (w : World ω) (phase : Phase) (substep : Substep)
    (guarded : ∀ trace head, known trace head → Guard cfg (.appended ⟨phase,substep⟩) trace) :
    Keeps cfg known (journalAppend w phase substep) fun _ => Appended cfg ⟨phase,substep⟩ known := by
  refine Keeps.bind (Keeps.latest lawful) fun previous => ?_
  have lawful' : Knows cfg fun trace head => head = some previous ∧ known trace head :=
    fun _ _ start => lawful _ _ start.2
  refine Keeps.bind (Keeps.require lawful' _ _ _ _) fun _ => ?_
  refine Keeps.weaken (Keeps.appendRecord lawful w ⟨phase,substep⟩ guarded) ?_
  exact fun _ _ start => start.2.2

theorem Keeps.setDiscriminator (discriminator : Discriminator) :
    Keeps cfg known (setDiscriminator discriminator : Action ω Unit) fun _ => known :=
  fun _ start => ⟨fun _ _ => trivial,start⟩

end Rules

def Under (cfg : Config) (at' : Option Entry → Prop) : Assertion := fun trace head => Lawful cfg trace ∧ at' head

abbrev Past (cfg : Config) : Assertion := Under cfg fun _ => True

theorem under_knows (cfg : Config) (at' : Option Entry → Prop) : Knows cfg (Under cfg at') := fun _ _ start => start.1

section Parts

variable {ω : Type} {cfg : Config} {sha256 : List UInt8 → Units} {at' : Option Entry → Prop} (w : World ω)

variable {α : Type}

/-- A read that is not looked at again. -/
theorem read_under (answer : ω → Except Failure α × ω) (event : α → Event)
    (plain : ∀ a trace, Guard cfg (event a) trace) :
    Keeps cfg (Under cfg at') (read answer event : Action ω α) fun _ => Under cfg at' := by
  refine (Keeps.read (under_knows cfg at') answer event fun a trace _ _ => plain a trace).strengthen ?_
  rintro a trace head ⟨earlier,-,lawful,-,there⟩
  exact ⟨lawful,there⟩

theorem require_keeps (lawful : Knows cfg known) (ok : Bool) (code : Code)
    (reason : Option Reason) (ambiguous : Bool) :
    Keeps cfg known (require ok code reason ambiguous : Action ω Unit) fun _ => known :=
  (Keeps.require lawful ok code reason ambiguous).strengthen fun _ _ _ next => next.2

theorem inspect_keeps (lawful : Knows cfg known) (f : Driver ω → Except Failure α) :
    Keeps cfg known (Program.inspect f) fun _ => known :=
  (Keeps.inspect lawful f).strengthen fun _ _ _ next => next.2

theorem lift_keeps (lawful : Knows cfg known) (result : Except Failure α) :
    Keeps cfg known (lift result : Action ω α) fun _ => known :=
  (Keeps.lift lawful result).strengthen fun _ _ _ next => next.2

theorem requireMembers_keeps (lawful : Knows cfg known) (code : Code) (cgroup : Cgroup) :
    Keeps cfg known (requireMembers sha256 code cgroup : Action ω Unit) fun _ => known :=
  (lift_keeps lawful _).bind fun _ => require_keeps lawful _ _ _ _

theorem forM_keeps {cgroup : Option Cgroup} {check : Cgroup → Action ω Unit}
    (each : ∀ cgroup, Keeps cfg known (check cgroup) fun _ => known) :
    Keeps cfg known (cgroup.forM check) fun _ => known := by
  cases cgroup with
  | none => exact Keeps.pure fun _ _ start => start
  | some cgroup => exact each cgroup

/-- Records of a stop that needs nothing before it. -/
theorem append_under (phase : Phase) (substep : Substep)
    (plain : ∀ trace, Guard cfg (.appended ⟨phase,substep⟩) trace) :
    Keeps cfg (Under cfg at') (journalAppend w phase substep) fun _ =>
      Under cfg fun head => head = some ⟨phase,substep⟩ := by
  refine (Keeps.journalAppend (under_knows cfg at') w phase substep fun trace _ _ => plain trace).strengthen ?_
  rintro _ trace head ⟨there,earlier,before,-,lawful,-⟩
  exact ⟨lawful,there⟩

theorem enterStop_under (pendingAction : Option Discriminator) :
    Keeps cfg (Past cfg) (enterStop w pendingAction) fun _ =>
      Under cfg fun head => pendingAction = none → head = some ⟨.stopping,.intent⟩ := by
  cases pendingAction with
  | some => exact Keeps.pure fun _ _ start => ⟨start.1,fun none => by cases none⟩
  | none =>
    refine (append_under w .stopping .intent fun _ => trivial).strengthen ?_
    exact fun _ _ _ next => ⟨next.1,fun _ => next.2⟩

/-- A stop that is no resumption has its intent record at the head. -/
theorem admitStop_under (input : Input) :
    Keeps cfg (Past cfg) (admitStop w input) fun admitted =>
      Under cfg fun head => admitted.pendingAction = none → head = some ⟨.stopping,.intent⟩ := by
  refine (require_keeps (under_knows cfg _) _ _ _ _).bind fun _ => ?_
  refine (inspect_keeps (under_knows cfg _) _).bind fun pendingAction => ?_
  refine (inspect_keeps (under_knows cfg _) _).bind fun _ => ?_
  refine (enterStop_under w pendingAction).bind fun _ => ?_
  exact Keeps.pure fun _ _ start => start

theorem readCgroup_past : Keeps cfg (Past cfg) (readCgroup w) fun _ => Past cfg :=
  read_under w.readCgroup .members fun _ _ => trivial

theorem checkPendingStop_past (before : Probe) (live : Option Epoch) :
    Keeps cfg (Past cfg) (checkPendingStop w sha256 before live) fun _ => Past cfg := by
  refine (readCgroup_past w).bind fun cgroup => ?_
  refine (forM_keeps fun cgroup => requireMembers_keeps (under_knows cfg _) _ _).bind fun _ => ?_
  refine (require_keeps (under_knows cfg _) _ _ _ _).bind fun _ => ?_
  exact Keeps.pure fun _ _ start => start

theorem inspectResource_under (input : Input) :
    Keeps cfg (Under cfg at') (inspectResource w cfg input) fun _ => Under cfg at' := by
  refine (read_under w.probe .probed fun _ _ => trivial).bind fun before => ?_
  refine (read_under w.receipts (fun _ => .received) fun _ _ => trivial).bind fun _ => ?_
  refine (require_keeps (under_knows cfg _) _ _ _ _).bind fun _ => ?_
  refine (require_keeps (under_knows cfg _) _ _ _ _).bind fun _ => ?_
  exact Keeps.pure fun _ _ start => start

structure Seen (manager : Manager) (facts : Process) (tree : Tree) (epoch : Epoch) : Prop where
  live : manager.livePid = some epoch.mainPid
  pid : facts.pid = epoch.mainPid
  executable : epoch.executable = facts.executable
  owner : epoch.owner = facts.owner
  processes : epoch.treeProcesses = tree.processes

def Live (cfg : Config) (at' : Option Entry → Prop) (epoch : Epoch) : Assertion := fun trace head =>
  Under cfg at' trace head ∧ ∃ manager facts tree earlier,
    trace = .tree tree :: .facts (some facts) :: .shown manager :: earlier ∧ Seen manager facts tree epoch

theorem readTree_live (live : manager.livePid = some mainPid) :
    Keeps cfg (fun trace head => Under cfg at' trace head ∧
        ∃ earlier, trace = .facts (some facts) :: .shown manager :: earlier)
      (readTree w sha256 mainPid facts) (Live cfg at') := by
  refine (Keeps.require (fun _ _ start => start.1.1) _ _ _ _).bind fun _ => ?_
  refine (Keeps.read (fun _ _ start => start.2.1.1) (w.enumerateTree facts) .tree fun _ _ _ _ => trivial).bind
    fun tree => ?_
  have lawful : Knows cfg fun trace head => ∃ earlier, trace = .tree tree :: earlier ∧ Lawful cfg trace ∧
      decide (facts.pid = mainPid) ∧ Under cfg at' earlier head ∧
        ∃ before, earlier = .facts (some facts) :: .shown manager :: before := by
    rintro trace head ⟨earlier,-,lawful,-⟩
    exact lawful
  refine (Keeps.require lawful _ _ _ _).bind fun _ => ?_
  refine (Keeps.lift (fun _ _ start => lawful _ _ start.2) _).bind fun digest => ?_
  refine (Keeps.require (fun _ _ start => lawful _ _ start.2.2) _ _ _ _).bind fun _ => ?_
  refine Keeps.pure ?_
  rintro trace head ⟨-,-,-,earlier,rfl,past,pid,under,before,rfl⟩
  exact ⟨⟨past,under.2⟩,manager,facts,tree,before,rfl,live,of_decide_eq_true pid,rfl,rfl,rfl⟩

def LiveOrNone (cfg : Config) (at' : Option Entry → Prop) : Option Epoch → Assertion
  | none => Under cfg at'
  | some epoch => Live cfg at' epoch

theorem liveOrNone_past (live : Option Epoch) (trace : List Event) (head : Option Entry)
    (known : LiveOrNone cfg at' live trace head) : Past cfg trace head := by
  cases live with
  | none => exact ⟨known.1,trivial⟩
  | some => exact ⟨known.1.1,trivial⟩

theorem liveOrNone_head (live : Option Epoch)
    (implied : ∀ head, at' head → at'' head) (trace : List Event) (head : Option Entry)
    (known : LiveOrNone cfg at' live trace head) : LiveOrNone cfg at'' live trace head := by
  cases live with
  | none => exact ⟨known.1,implied head known.2⟩
  | some => exact ⟨⟨known.1.1,implied head known.1.2⟩,known.2⟩

theorem readEpoch_live (live : manager.livePid = some mainPid) :
    Keeps cfg (fun trace head => Under cfg at' trace head ∧ ∃ earlier, trace = .shown manager :: earlier)
      (readEpoch w sha256 mainPid) (LiveOrNone cfg at') := by
  refine (Keeps.read (fun _ _ start => start.1.1) (w.readProcessFacts mainPid) .facts fun _ _ _ _ => trivial).bind
    fun facts => ?_
  cases facts with
  | none =>
    refine Keeps.pure ?_
    rintro trace head ⟨earlier,-,past,under,-⟩
    exact ⟨past,under.2⟩
  | some facts =>
    refine ((readTree_live w live).weaken ?_).bind fun epoch => Keeps.pure fun _ _ start => start
    rintro trace head ⟨earlier,rfl,past,under,before,rfl⟩
    exact ⟨⟨past,under.2⟩,before,rfl⟩

theorem liveEpoch_live : Keeps cfg (Under cfg at') (liveEpoch w sha256) (LiveOrNone cfg at') := by
  refine (Keeps.read (under_knows cfg at') w.showUnit .shown fun _ _ _ _ => trivial).bind fun manager => ?_
  cases live : manager.livePid with
  | none =>
    refine Keeps.pure ?_
    rintro trace head ⟨earlier,-,past,under⟩
    exact ⟨past,under.2⟩
  | some mainPid =>
    refine (readEpoch_live w live).weaken ?_
    rintro trace head ⟨earlier,rfl,past,under⟩
    exact ⟨⟨past,under.2⟩,earlier,rfl⟩

/-- The control group was read just after the process that it is bound to. -/
def Read (cfg : Config) (sha256 : List UInt8 → Units) (at' : Option Entry → Prop) (cgroup : Cgroup) : Assertion :=
  fun trace head => Under cfg at' trace head ∧
    (∃ digest, cgroupMemberFingerprint sha256 cgroup = .ok (some digest)) ∧
    ∃ manager facts tree earlier,
      trace = .members (some cgroup) :: .tree tree :: .facts (some facts) :: .shown manager :: earlier ∧
      Bound cfg manager facts tree cgroup

theorem bound_of_seen (injective : InjectiveOnCanonical sha256) (seen : Seen manager facts tree epoch)
    (lineage : lineageMatches cfg epoch)
    (main : (cgroup.processes.any fun process => process.pid = epoch.mainPid))
    (own : cgroupMemberFingerprint sha256 cgroup = .ok (some member))
    (ofTree : processFactsFingerprint sha256 epoch.treeProcesses = .ok members)
    (ofMembers : processFactsFingerprint sha256 cgroup.processes = .ok members) :
    Bound cfg manager facts tree cgroup := by
  have valid : validProcesses cgroup.processes := by
    simp only [cgroupMemberFingerprint] at own
    split at own
    · rename_i shaped
      simp only [Bool.and_eq_true] at shaped
      exact shaped.2
    · cases own
  obtain ⟨digest,rfl⟩ : ∃ digest, members = some digest := by
    simp only [processFactsFingerprint,valid,if_true,membersFingerprint] at ofMembers
    split at ofMembers
    · exact ⟨_,(ok.inj ofMembers).symm⟩
    · cases ofMembers
  simp only [lineageMatches,Bool.and_eq_true,beq_iff_eq,seen.executable,seen.owner] at lineage
  simp only [any_eq_true,decide_eq_true_eq] at main
  obtain ⟨process,there,pid⟩ := main
  refine ⟨?_,lineage.1,lineage.2,?_,mem_map.mpr ⟨process,there,pid.trans seen.pid.symm⟩⟩
  · rw [seen.live,Option.map_some,seen.pid]
  · rw [seen.processes] at ofTree
    exact facts_perm injective ofMembers ofTree

theorem checkLineage_read (injective : InjectiveOnCanonical sha256) (live : Epoch) :
    Keeps cfg (Live cfg at' live) (checkLineage w cfg sha256 live) (Read cfg sha256 at') := by
  refine (Keeps.require (fun _ _ start => start.1.1) _ _ _ _).bind fun _ => ?_
  refine (Keeps.read (fun _ _ start => start.2.1.1) w.readCgroup .members fun _ _ _ _ => trivial).bind fun found => ?_
  cases found with
  | none => exact Keeps.refuse (fun _ _ ⟨_,_,past,_⟩ => past) _ _ _
  | some cgroup =>
    have lawful : Knows cfg fun trace head => ∃ earlier, trace = .members (some cgroup) :: earlier ∧
        Lawful cfg trace ∧ lineageMatches cfg live ∧ Live cfg at' live earlier head := by
      rintro trace head ⟨earlier,-,past,-⟩
      exact past
    refine (Keeps.lift lawful _).bind fun digest => ?_
    refine (Keeps.require (fun _ _ start => lawful _ _ start.2) _ _ _ _).bind fun _ => ?_
    refine (Keeps.lift (fun _ _ start => lawful _ _ start.2.2) _).bind fun tree => ?_
    refine (Keeps.lift (fun _ _ start => lawful _ _ start.2.2.2) _).bind fun members => ?_
    refine (Keeps.require (fun _ _ start => lawful _ _ start.2.2.2.2) _ _ _ _).bind fun _ => ?_
    refine Keeps.pure ?_
    rintro trace head ⟨same,ofMembers,ofTree,checked,own,earlier,rfl,past,lineage,under,manager,facts,tree,before,
      rfl,seen⟩
    rw [beq_iff_eq] at same
    subst same
    rw [Bool.and_eq_true,Option.isSome_iff_exists] at checked
    obtain ⟨⟨member,rfl⟩,main⟩ := checked
    exact ⟨⟨past,under.2⟩,⟨member,own⟩,manager,facts,tree,before,rfl,
      bound_of_seen injective seen lineage main own ofTree ofMembers⟩

/-- The action record over an intent record. -/
theorem enterAction_keeps (lawful : Knows cfg known) (discriminator : Discriminator)
    (intent : ∀ trace head, known trace head → head = some ⟨.stopping,.intent⟩) :
    Keeps cfg known (enterAction w .stopping discriminator) fun _ => Appended cfg ⟨.stopping,.action⟩ known := by
  refine (Keeps.latest lawful).bind fun head => ?_
  by_cases isIntent : head.substep = .intent
  · rw [if_pos isIntent]
    refine ((Keeps.journalAppend lawful w .stopping .action fun _ _ _ => trivial).weaken fun _ _ start => start.2).bind
      fun _ => ?_
    exact Keeps.setDiscriminator discriminator
  · rw [if_neg isIntent]
    refine Keeps.pure fun trace last start => absurd ?_ isIntent
    have same := Option.some.inj (start.1.symm.trans (intent _ _ start.2))
    rw [same]

def Turning (cfg : Config) (before : Cgroup) (start deadline : Int) : Assertion := fun trace head =>
  Under cfg (fun head => head = some ⟨.stopping,.action⟩) trace head ∧ Waiting cfg before start deadline trace

theorem Waiting.turn (waiting : Waiting cfg before start deadline trace) (turn : event.isTurn) :
    Waiting cfg before start deadline (event :: trace) := by
  obtain ⟨turns,earlier,rfl,each,stopped⟩ := waiting
  exact ⟨event :: turns,earlier,rfl,by simpa [turn] using each,stopped⟩

theorem Turning.knows (before : Cgroup) (start deadline : Int) :
    Knows cfg (Turning cfg before start deadline) := fun _ _ known => known.1.1

variable {deadline : Int}

/-- A read of a turn. -/
theorem Turning.observe (answer : ω → Except Failure α × ω)
    (event : α → Event) (turn : ∀ a, (event a).isTurn) (plain : ∀ a trace, Guard cfg (event a) trace) :
    Keeps cfg (Turning cfg before start deadline) (read answer event : Action ω α) fun _ =>
      Turning cfg before start deadline := by
  refine (Keeps.read (Turning.knows before start deadline) answer event fun a trace _ _ => plain a trace).strengthen ?_
  rintro a trace head ⟨earlier,rfl,past,under,waiting⟩
  exact ⟨⟨past,under.2⟩,waiting.turn (turn a)⟩

theorem nowMs_turn :
    Keeps cfg (Turning cfg before start deadline) (nowMs w) fun now trace head =>
      ∃ earlier, trace = .time now :: earlier ∧ Lawful cfg trace ∧ Turning cfg before start deadline earlier head :=
  fun _ known => ⟨fun _ _ => trivial,_,rfl,⟨trivial,known.1.1⟩,known⟩

theorem startWait_keeps (deadline : Int) (lawful : Knows cfg known) :
    Keeps cfg known (startWait w deadline) fun start trace head =>
      ∃ earlier, trace = .started start deadline :: earlier ∧ Lawful cfg trace ∧ known earlier head :=
  fun _ start => ⟨fun _ _ => trivial,_,rfl,⟨trivial,lawful _ _ start⟩,start⟩

theorem sleepMs_turn :
    Keeps cfg (Turning cfg before start deadline) (sleepMs w) fun _ => Turning cfg before start deadline :=
  fun _ known => ⟨fun _ _ => trivial,⟨⟨trivial,known.1.1⟩,known.1.2⟩,known.2.turn rfl⟩

/-- The deadline is over, and the group has the members that were stopped. -/
def Overdue (cfg : Config) (before exact' : Cgroup) (start deadline : Int) : Assertion := fun trace head =>
  Under cfg (fun head => head = some ⟨.stopping,.action⟩) trace head ∧ ∃ now earlier,
    trace = .members (some exact') :: .time now :: earlier ∧ Waiting cfg before start deadline earlier ∧
    deadline ≤ now - start ∧ exact'.processes.Perm before.processes

theorem performAction_under (mutated : Keeps cfg known mutate fun _ => Past cfg)
    (observed : Keeps cfg (Past cfg) observe fun _ => Past cfg) :
    Keeps cfg known (performAction w .stopping mutate observe) fun _ => Past cfg := by
  refine mutated.bind fun result => ?_
  refine observed.bind fun _ => ?_
  refine (require_keeps (under_knows cfg _) _ _ _ _).bind fun _ => ?_
  refine (append_under w .stopping .observed fun _ => trivial).bind fun _ => ?_
  exact Keeps.pure fun _ _ start => ⟨start.1,trivial⟩

theorem enterIntent_keeps (lawful : Knows cfg known)
    (observed : ∀ trace head, known trace head → head = some ⟨.stopping,.observed⟩) :
    Keeps cfg known (enterIntent w .stopping) fun _ => Appended cfg ⟨.stopping,.intent⟩ known := by
  refine (Keeps.latest lawful).bind fun head => ?_
  by_cases entered : head = ⟨.stopping,.intent⟩ ∨ head = ⟨.stopping,.action⟩
  · rw [if_pos entered]
    refine Keeps.pure fun trace last start => ?_
    have same := Option.some.inj (start.1.symm.trans (observed _ _ start.2))
    simp [same] at entered
  · rw [if_neg entered]
    exact (Keeps.journalAppend lawful w .stopping .intent fun _ _ _ => trivial).weaken fun _ _ start => start.2

/-- A mutation under an action record that is new. -/
theorem actionMutation_new (lawful : Knows cfg known)
    (observedHead : ∀ trace head, known trace head → head = some ⟨.stopping,.observed⟩)
    (mutated : Keeps cfg (Appended cfg ⟨.stopping,.action⟩ (Appended cfg ⟨.stopping,.intent⟩ known)) mutate
      fun _ => Past cfg) (observed : Keeps cfg (Past cfg) observe fun _ => Past cfg) :
    Keeps cfg known (actionMutation w .stopping mutate observe discriminator) fun _ => Past cfg := by
  refine (Keeps.latest lawful).bind fun head => ?_
  by_cases same : head = ⟨.stopping,.observed⟩
  swap
  · refine Keeps.never fun trace last start => same ?_
    exact Option.some.inj (start.1.symm.trans (observedHead _ _ start.2))
  subst same
  refine ((enterIntent_keeps w lawful observedHead).weaken fun _ _ start => start.2).bind fun _ => ?_
  refine (enterAction_keeps w Appended.knows discriminator fun _ _ start => start.1).bind fun _ => ?_
  exact performAction_under w mutated observed

theorem append_past (phase : Phase) (substep : Substep)
    (plain : ∀ trace, Guard cfg (.appended ⟨phase,substep⟩) trace) :
    Keeps cfg (Past cfg) (journalAppend w phase substep) fun _ => Past cfg :=
  (append_under w phase substep plain).strengthen fun _ _ _ next => ⟨next.1,trivial⟩

theorem enterIntent_past : Keeps cfg (Past cfg) (enterIntent w .stopping) fun _ => Past cfg := by
  refine (Keeps.latest (under_knows cfg _)).bind fun head => Keeps.weaken ?_ fun _ _ start => start.2
  by_cases entered : head = ⟨.stopping,.intent⟩ ∨ head = ⟨.stopping,.action⟩
  · rw [if_pos entered]
    exact Keeps.pure fun _ _ start => start
  · rw [if_neg entered]
    exact append_past w .stopping .intent fun _ => trivial

theorem enterAction_past (discriminator : Discriminator) :
    Keeps cfg (Past cfg) (enterAction w .stopping discriminator) fun _ => Past cfg := by
  refine (Keeps.latest (under_knows cfg _)).bind fun head => Keeps.weaken ?_ fun _ _ start => start.2
  by_cases isIntent : head.substep = .intent
  · rw [if_pos isIntent]
    exact (append_past w .stopping .action fun _ => trivial).bind fun _ => Keeps.setDiscriminator discriminator
  · rw [if_neg isIntent]
    exact Keeps.pure fun _ _ start => start

/-- A mutation that needs nothing before it. -/
theorem actionMutation_past (mutated : Keeps cfg (Past cfg) mutate fun _ => Past cfg)
    (observed : Keeps cfg (Past cfg) observe fun _ => Past cfg) :
    Keeps cfg (Past cfg) (actionMutation w .stopping mutate observe discriminator) fun _ => Past cfg := by
  refine (Keeps.latest (under_knows cfg _)).bind fun head => Keeps.weaken ?_ fun _ _ start => start.2
  refine (inspect_keeps (under_knows cfg _) _).bind fun current => ?_
  refine (require_keeps (under_knows cfg _) _ _ _ _).bind fun _ => ?_
  refine (enterIntent_past w).bind fun _ => ?_
  refine (enterAction_past w discriminator).bind fun _ => ?_
  have found : Keeps cfg (Past cfg) (foundDone (isAction .stopping head) observe) fun _ => Past cfg := by
    cases isAction .stopping head with
    | true => exact observed
    | false => exact Keeps.pure fun _ _ start => start
  refine found.bind fun done => ?_
  cases done with
  | true => exact (append_past w .stopping .observed fun _ => trivial).bind fun _ => Keeps.pure fun _ _ start => start
  | false => exact performAction_under w mutated observed

theorem observeKilled_past : Keeps cfg (Past cfg) (observeKilled w) fun _ => Past cfg :=
  (readCgroup_past w).bind fun _ => Keeps.pure fun _ _ start => start

theorem observeEmpty_past : Keeps cfg (Past cfg) (observeEmpty w sha256) fun _ => Past cfg := by
  refine (readCgroup_past w).bind fun after => ?_
  cases after with
  | none => exact Keeps.pure fun _ _ start => start
  | some after => exact (lift_keeps (under_knows cfg _) _).bind fun _ => Keeps.pure fun _ _ start => start

theorem resumeTermination_past : Keeps cfg (Past cfg) (resumeTermination w sha256) fun _ => Past cfg := by
  refine (actionMutation_past w (Keeps.pure fun _ _ start => start) (observeEmpty_past w)).bind fun killed => ?_
  exact Keeps.pure fun _ _ start => start

/-- The termination is issued for the members that were stopped. -/
theorem force_past (before exact' : Cgroup) (start deadline : Int) :
    Keeps cfg (Overdue cfg before exact' start deadline) (force w exact') fun _ => Past cfg := by
  have lawful : Knows cfg (Overdue cfg before exact' start deadline) := fun _ _ known => known.1.1
  refine (Keeps.read lawful w.receipts (fun _ => .received) fun _ _ _ _ => trivial).bind fun _ => ?_
  refine (Keeps.journalAppend ?_ w .stopping .observed fun _ _ _ => trivial).bind fun _ => ?_
  · rintro trace head ⟨earlier,-,past,-⟩
    exact past
  refine Keeps.bind (actionMutation_new w Appended.knows (fun _ _ known => known.1) ?_
    (observeKilled_past w)) fun killed => ?_
  · refine (Keeps.act Appended.knows _ _ ?_).strengthen ?_
    · rintro trace head ⟨-,actionTrace,-,rfl,-,-,intentTrace,-,rfl,-,-,observedTrace,-,rfl,-,readTrace,rfl,-,-,now,earlier,
        rfl,waiting,late,members⟩
      exact ⟨before,exact',start,deadline,now,earlier,rfl,waiting,late,rfl,rfl,members⟩
    · rintro _ trace head ⟨earlier,-,past,-⟩
      exact ⟨past,trivial⟩
  · refine (require_keeps (under_knows cfg _) _ _ _ _).bind fun _ => ?_
    exact Keeps.pure fun _ _ start => start

/-- The members are those of a group that has a fingerprint. -/
theorem requireSame_perm (injective : InjectiveOnCanonical sha256)
    (lawful : Knows cfg known) (own : cgroupMemberFingerprint sha256 before = .ok (some digest)) :
    Keeps cfg known (requireSame sha256 before cgroup : Action ω Unit) fun _ trace head =>
      cgroup.processes.Perm before.processes ∧ known trace head := by
  refine (Keeps.lift lawful _).bind fun now => ?_
  have lawful' : Knows cfg fun trace head => cgroupMemberFingerprint sha256 cgroup = .ok now ∧ known trace head :=
    fun _ _ start => lawful _ _ start.2
  refine (Keeps.lift lawful' _).bind fun then' => ?_
  refine (Keeps.require (fun _ _ start => lawful' _ _ start.2) _ _ _ _).strengthen ?_
  rintro _ trace head ⟨same,ofBefore,ofNow,start⟩
  rw [beq_iff_eq] at same
  subst same
  rw [own] at ofBefore
  cases ofBefore
  exact ⟨cgroup_perm injective ofNow own,start⟩

theorem checkMembers_keeps (injective : InjectiveOnCanonical sha256) (lawful : Knows cfg known)
    (own : cgroupMemberFingerprint sha256 before = .ok (some digest)) :
    Keeps cfg known (checkMembers sha256 before cgroup : Action ω Unit) fun _ => known := by
  refine forM_keeps fun cgroup => ?_
  refine (requireMembers_keeps lawful _ _).bind fun _ => ?_
  split
  · exact (requireSame_perm injective lawful own).strengthen fun _ _ _ next => next.2
  · exact Keeps.pure fun _ _ start => start

def Late (cfg : Config) (before : Cgroup) (start deadline : Int) : Assertion := fun trace head =>
  Under cfg (fun head => head = some ⟨.stopping,.action⟩) trace head ∧ ∃ now earlier, trace = .time now :: earlier ∧
    Waiting cfg before start deadline earlier ∧ deadline ≤ now - start

theorem expire_past (injective : InjectiveOnCanonical sha256) (start deadline : Int)
    (own : cgroupMemberFingerprint sha256 before = .ok (some digest)) :
    Keeps cfg (Late cfg before start deadline) (expire w sha256 before) fun _ => Past cfg := by
  have lawful : Knows cfg (Late cfg before start deadline) := fun _ _ known => known.1.1
  refine (Keeps.read lawful w.readCgroup .members fun _ _ _ _ => trivial).bind fun found => ?_
  cases found with
  | none =>
    refine Keeps.pure ?_
    rintro trace head ⟨earlier,-,past,-⟩
    exact ⟨past,trivial⟩
  | some exact' =>
    have lawful' : Knows cfg fun trace head => ∃ earlier, trace = .members (some exact') :: earlier ∧
        Lawful cfg trace ∧ Late cfg before start deadline earlier head := by
      rintro trace head ⟨earlier,-,past,-⟩
      exact past
    refine (requireMembers_keeps lawful' _ _).bind fun _ => ?_
    split
    · refine Keeps.pure ?_
      rintro trace head ⟨earlier,-,past,-⟩
      exact ⟨past,trivial⟩
    · refine (requireSame_perm injective lawful' own).bind fun _ => Keeps.weaken (force_past w before exact' start deadline) ?_
      rintro trace head ⟨members,earlier,rfl,past,⟨-,there⟩,now,before',rfl,waiting,late⟩
      exact ⟨⟨past,there⟩,now,before',rfl,waiting,late,members⟩

theorem poll_past (injective : InjectiveOnCanonical sha256)
    (own : cgroupMemberFingerprint sha256 before = .ok (some digest)) (turns : Nat) :
    Keeps cfg (Turning cfg before start deadline) (poll w sha256 before start deadline turns) fun _ => Past cfg := by
  have lawful := @Turning.knows cfg before start deadline
  induction turns with
  | zero => exact Keeps.pure fun _ _ known => ⟨known.1.1,trivial⟩
  | succ turns ih =>
    refine (Turning.observe w.showUnit .shown (fun _ => rfl) fun _ _ => trivial).bind fun manager => ?_
    refine (Turning.observe w.readCgroup .members (fun _ => rfl) fun _ _ => trivial).bind fun cgroup => ?_
    refine (checkMembers_keeps injective lawful own).bind fun _ => ?_
    split
    · exact Keeps.pure fun _ _ known => ⟨known.1.1,trivial⟩
    · refine (nowMs_turn w).bind fun now => ?_
      split
      · rename_i late
        refine (Keeps.weaken (expire_past w injective start deadline own) ?_).bind fun _ => Keeps.pure fun _ _ start => start
        rintro trace head ⟨earlier,rfl,past,⟨-,there⟩,waiting⟩
        exact ⟨⟨past,there⟩,now,earlier,rfl,waiting,late⟩
      · refine Keeps.bind (Keeps.weaken (sleepMs_turn w) ?_) fun _ => ih
        rintro trace head ⟨earlier,rfl,past,⟨-,there⟩,waiting⟩
        exact ⟨⟨past,there⟩,waiting.turn rfl⟩

/-- A control group that is bound, with its fingerprint, and the action record of its stop. -/
def Bounded (cfg : Config) (sha256 : List UInt8 → Units) (before : Cgroup) : Assertion := fun trace head =>
  Under cfg (fun head => head = some ⟨.stopping,.action⟩) trace head ∧
    (∃ digest, cgroupMemberFingerprint sha256 before = .ok (some digest)) ∧ Stopping cfg before trace

theorem stopTree_past (injective : InjectiveOnCanonical sha256) (before : Cgroup) (deadline : Int) (turns : Nat) :
    Keeps cfg (Bounded cfg sha256 before) (stopTree w sha256 before deadline turns) fun _ => Past cfg := by
  have lawful : Knows cfg (Bounded cfg sha256 before) := fun _ _ known => known.1.1
  refine (Keeps.act lawful .stop w.stop fun _ _ known => ⟨before,known.2.2⟩).bind fun code => ?_
  have lawful' : Knows cfg fun trace head => ∃ earlier, trace = .stop :: earlier ∧ Lawful cfg trace ∧
      Bounded cfg sha256 before earlier head := by
    rintro trace head ⟨earlier,-,past,-⟩
    exact past
  refine (require_keeps lawful' _ _ _ _).bind fun _ => ?_
  refine (startWait_keeps w deadline lawful').bind fun start => ?_
  rintro s ⟨startTrace,begun,past,stopTrace,rfl,-,⟨-,there⟩,⟨digest,own⟩,stopping⟩
  exact poll_past w injective own turns s ⟨⟨past,there⟩,[],_,begun,fun _ none => absurd none not_mem_nil,stopping⟩

def Started (cfg : Config) (sha256 : List UInt8 → Units) : Start → Assertion
  | .bound before _ => Bounded cfg sha256 before
  | _ => Past cfg

theorem startPending_started (before : Probe) (live : Option Epoch) (discriminator : Discriminator) :
    Keeps cfg (Past cfg) (startPending w sha256 before live discriminator) (Started cfg sha256) := by
  refine (checkPendingStop_past w before live).bind fun _ => ?_
  split
  · exact Keeps.pure fun _ _ start => start
  · exact Keeps.pure fun _ _ start => start

theorem startLive_started (injective : InjectiveOnCanonical sha256) (live : Option Epoch) (deadline : Int) :
    Keeps cfg (LiveOrNone cfg (fun head => head = some ⟨.stopping,.intent⟩) live)
      (startLive w cfg sha256 live deadline) (Started cfg sha256) := by
  cases live with
  | none => exact Keeps.pure fun _ _ start => ⟨start.1,trivial⟩
  | some live =>
    refine (checkLineage_read w injective live).bind fun before => ?_
    refine (enterAction_keeps w (fun _ _ known => known.1.1) _ fun _ _ known => known.1.2).bind fun _ => ?_
    refine Keeps.pure ?_
    rintro trace head ⟨there,earlier,last,rfl,past,-,own,manager,facts,tree,before',rfl,bound⟩
    exact ⟨⟨past,there⟩,own,manager,facts,tree,before',rfl,bound⟩

theorem startStop_started (injective : InjectiveOnCanonical sha256) (input : Input) :
    Keeps cfg (Past cfg) (startStop w cfg sha256 input) (Started cfg sha256) := by
  refine (admitStop_under w input).bind fun admitted => ?_
  refine (inspectResource_under w input).bind fun before => ?_
  refine (liveEpoch_live w).bind fun live => ?_
  cases admitted.pendingAction with
  | some discriminator => exact (startPending_started w before live discriminator).weaken (liveOrNone_past live)
  | none =>
    refine (startLive_started w injective live admitted.deadline).weaken ?_
    exact liveOrNone_head live fun head there => there rfl

theorem endTree_past (injective : InjectiveOnCanonical sha256) (turns : Nat) (start : Start) :
    Keeps cfg (Started cfg sha256 start) (endTree w sha256 turns start) fun _ => Past cfg := by
  cases start with
  | ended => exact Keeps.pure fun _ _ known => known
  | terminating => exact (resumeTermination_past w).bind fun _ => Keeps.pure fun _ _ known => known
  | bound before deadline => exact stopTree_past w injective before deadline turns

theorem confirm_past : Keeps cfg (Past cfg) (confirm w sha256) fun _ => Past cfg := by
  refine (Keeps.read (under_knows cfg _) w.showUnit .shown fun _ _ _ _ => trivial).bind fun manager => ?_
  have shown : Knows cfg fun trace head => ∃ earlier, trace = .shown manager :: earlier ∧ Lawful cfg trace ∧
      Past cfg earlier head := by
    rintro trace head ⟨earlier,-,past,-⟩
    exact past
  refine (Keeps.read shown w.readCgroup .members fun _ _ _ _ => trivial).bind fun cgroup => ?_
  have lawful : Knows cfg fun trace head => ∃ earlier, trace = .members cgroup :: earlier ∧ Lawful cfg trace ∧
      ∃ before, earlier = .shown manager :: before ∧ Lawful cfg earlier ∧ Past cfg before head := by
    rintro trace head ⟨earlier,-,past,-⟩
    exact past
  refine (forM_keeps fun cgroup => requireMembers_keeps lawful _ _).bind fun _ => ?_
  refine (Keeps.require lawful _ _ _ _).bind fun _ => ?_
  refine (Keeps.journalAppend (fun _ _ known => lawful _ _ known.2) w .stopping .observed
    fun _ _ _ => trivial).bind fun _ => ?_
  refine (Keeps.journalAppend Appended.knows w .quiescent .intent ?_).bind fun _ => ?_
  · rintro trace head ⟨-,earlier,before,rfl,-,quiet,last,rfl,-,first,rfl,-⟩
    rw [Bool.and_eq_true] at quiet
    exact ⟨cgroup,manager,first,rfl,quiet⟩
  refine (Keeps.journalAppend Appended.knows w .quiescent .observed ?_).strengthen ?_
  · rintro trace head ⟨-,earlier,-,rfl,-⟩
    exact ⟨earlier,rfl⟩
  · exact fun _ trace head next => ⟨Appended.knows _ _ next,trivial⟩

theorem finishStop_past (stopped : Option Stopped) :
    Keeps cfg (Past cfg) (finishStop w sha256 stopped) fun _ => Past cfg := by
  cases stopped with
  | none => exact Keeps.pure fun _ _ known => known
  | some stopped => exact (confirm_past w).bind fun _ => Keeps.pure fun _ _ known => known

theorem stopAndQuiesce_past (injective : InjectiveOnCanonical sha256) (input : Input) (turns : Nat) :
    Keeps cfg (Past cfg) (stopAndQuiesce w cfg sha256 input turns) fun _ => Past cfg := by
  refine (startStop_started w injective input).bind fun start => ?_
  exact (endTree_past w injective turns start).bind fun stopped => finishStop_past w stopped

end Parts

end GjcRemote.ServiceLinux
