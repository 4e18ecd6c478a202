import OpenVrrp.Library.Watchdog
import OpenVrrp.Network
import OpenVrrp.Service.Advertising
import OpenVrrp.Service.Moves

/-! Who follows a Master that is gone, by the clock. The Backups have heard its last
advertisement, and how long they wait differs by their skew times. -/
namespace OpenVrrp

namespace Timer

/-- A timerfd that is not set again keeps its time. -/
def expiry (t : Timer) (now before : Nat) : Nat :=
  if t.Running then now + t.value.nanoseconds else before

/-- The timerfd runs, and the main loop polls it. -/
def Ticks (t : Timer) : Prop := t.armed = true ∧ t.Running

instance (t : Timer) : Decidable t.Ticks :=
  inferInstanceAs (Decidable (t.armed = true ∧ t.Running))

theorem start_expiry (t : Timer) {msec : Nat} (positive : 0 < msec) (now before : Nat) :
    (t.start msec).expiry now before = now + msec * 1000000 := by
  rw [expiry, if_pos ((start_running_iff t msec).mpr positive), start_nanoseconds]

end Timer

structure Delivery (ι : Type) where
  receiver : ι
  sentAt : Nat
  message : Message ι

/-- Times are in nanoseconds; `masterDown` and `advertisement` are those of the timerfds.
So many advertisements to a router may still be lost in a row, as are in `spare`. -/
structure Timed (ι : Type) where
  now : Nat
  services : ι → VrrpService
  masterDown : ι → Nat
  advertisement : ι → Nat
  flying : List (Delivery ι)
  spare : ι → Nat

/-- One advertisement less is flying. -/
def Timed.take {ι : Type} [DecidableEq ι] (n : Timed ι) (receiver : ι)
    (flying : List (Delivery ι)) (spare : Nat) : Timed ι :=
  { n with flying := flying, spare := Function.update n.spare receiver spare }

/-- A callback comes at most `slack` after its timer expires and an advertisement arrives
within `delay`, unless it is lost. -/
structure Medium (ι : Type) where
  everyone : List ι
  slack : Nat
  delay : Nat
  losses : Nat

namespace VrrpService

/-- The service with nothing in its timers: what they hold afterwards has been started. -/
def unset (s : VrrpService) : VrrpService :=
  { s with
    masterDownTimer := { s.masterDownTimer with value := .zero }
    advertisementTimer := { s.advertisementTimer with value := .zero } }

end VrrpService

namespace Medium

variable {ι : Type} [DecidableEq ι]

def act (c : Medium ι) (n : Timed ι) (i : ι) (e : Event) : Timed ι :=
  let outcome := (n.services i).step e
  let started := ((n.services i).unset.step e).1
  { n with
    services := Function.update n.services i outcome.1
    masterDown := Function.update n.masterDown i
      (started.masterDownTimer.expiry n.now (n.masterDown i))
    advertisement := Function.update n.advertisement i
      (started.advertisementTimer.expiry n.now (n.advertisement i))
    flying := n.flying ++ (outcome.2.filterMap (Message.ofEffect i)).flatMap fun m =>
      (c.everyone.filter fun j => decide (j ≠ i)).map fun j => ⟨j, n.now, m⟩ }

/-- Time does not pass over what is late already. -/
inductive Step (c : Medium ι) : Timed ι → Timed ι → Prop where
  | wait (n : Timed ι) (d : Nat)
      (masterDown : ∀ i, (n.services i).masterDownTimer.Ticks →
        n.now + d ≤ n.masterDown i + c.slack)
      (advertisement : ∀ i, (n.services i).advertisementTimer.Ticks →
        n.now + d ≤ n.advertisement i + c.slack)
      (flying : ∀ f ∈ n.flying, n.now + d ≤ f.sentAt + c.delay) :
      Step c n { n with now := n.now + d }
  | masterDown (n : Timed ι) (i : ι) (ticks : (n.services i).masterDownTimer.Ticks)
      (expired : n.masterDown i ≤ n.now) : Step c n (c.act n i .masterDownExpiry)
  | advertisement (n : Timed ι) (i : ι) (ticks : (n.services i).advertisementTimer.Ticks)
      (expired : n.advertisement i ≤ n.now) : Step c n (c.act n i .advertisementExpiry)
  | deliver (n : Timed ι) (f : Delivery ι) (before after : List (Delivery ι))
      (flies : n.flying = before ++ f :: after) :
      Step c n (c.act (n.take f.receiver (before ++ after) c.losses) f.receiver f.message.event)
  | lose (n : Timed ι) (f : Delivery ι) (left : Nat) (before after : List (Delivery ι))
      (flies : n.flying = before ++ f :: after) (spared : n.spare f.receiver = left + 1) :
      Step c n (n.take f.receiver (before ++ after) left)

def Reachable (c : Medium ι) : Timed ι → Timed ι → Prop := Relation.ReflTransGen c.Step

end Medium

/-! ### What a service does to its timers -/

namespace VrrpService

/-- How long a Backup waits after an advertisement, in units of 10 ms. -/
def waitAfter {κ : Type} (s : VrrpService) (m : Message κ) : Nat :=
  if m.priority = 0 then s.skewTime else s.downIntervalOn m.interval

/-- The Master retires, or the Backup does not want to replace it. -/
def Heeds {κ : Type} (s : VrrpService) (m : Message κ) : Prop :=
  m.priority = 0 ∨ s.preemptMode = false ∨ s.priority.1 ≤ m.priority

/-- The advertisement a Master sends. -/
def own {ι : Type} (s : VrrpService) (sender : ι) : Message ι :=
  ⟨sender, s.primaryIpAddress, s.priority.1, s.advertisementInterval.toWire, s.addresses.toList⟩

variable {ι κ : Type}

structure Heard (s : VrrpService) (m : Message κ) (outcome : Outcome) : Prop where
  silent : outcome.2 = []
  backup : outcome.1.state = .backup
  waits : outcome.1.masterDownTimer = s.masterDownTimer.start (s.waitAfter m * 10)
  advertisement : outcome.1.advertisementTimer = s.advertisementTimer

theorem step_heard (s : VrrpService) (m : Message κ) (backup : s.state = .backup)
    (heeds : s.Heeds m) : s.Heard m (s.step m.event) := by
  change s.Heard m (s.onIncomingVrrpPacket m.address m.priority m.interval m.addresses)
  by_cases zero : m.priority = 0
  · rw [zero, packet_stopped s m.address m.interval m.addresses backup]
    refine ⟨rfl, backup, ?_, rfl⟩
    rw [waitAfter, if_pos zero]
    rfl
  · rw [packet_refresh s m.address m.interval m.addresses backup zero (heeds.resolve_left zero)]
    refine ⟨rfl, backup, ?_, rfl⟩
    rw [waitAfter, if_neg zero]
    rfl

structure Spoken (s : VrrpService) (outcome : Outcome) : Prop where
  master : outcome.1.state = .master
  waits : outcome.1.masterDownTimer.Running → s.masterDownTimer.Running
  advertisement : outcome.1.advertisementTimer =
    s.advertisementTimer.start (s.advertisementInterval.value * 10)
  said : ∀ i : ι, outcome.2.filterMap (Message.ofEffect i) = [s.own i]

theorem filterMap_advertised (i : ι) (effects : List Effect) :
    (advertised effects).filterMap (Message.ofEffect i) =
      effects.filterMap (Message.ofEffect i) := by
  rw [advertised, List.filterMap_filter]
  congr 1
  funext x
  cases x <;> rfl

theorem ofEffect_own (s : VrrpService) (i : ι) :
    Message.ofEffect i (s.sendAdvertisement s.priority.1) = some (s.own i) := by
  have fits : s.advertisementInterval.value % 4096 = s.advertisementInterval.value :=
    Nat.mod_eq_of_lt (Nat.lt_succ_of_le s.advertisementInterval.bounded)
  simp only [sendAdvertisement, Message.ofEffect, own, AdvertisementInterval.toWire, fits]

theorem masterDown_spoken (s : VrrpService) (armed : s.masterDownTimer.armed = true)
    (backup : s.state = .backup) : Spoken (ι := ι) s (s.step .masterDownExpiry) := by
  have still : s.stopMasterDownTimer.state = .backup := backup
  rw [step, masterDownExpiry, if_pos armed, onMasterDownTimer, if_pos still]
  refine ⟨by rw [becomeMaster_fst], fun runs => ?_, by rw [becomeMaster_fst]; rfl, fun i => ?_⟩
  · rw [becomeMaster_fst] at runs
    refine absurd ?_ runs
    simp [stopMasterDownTimer, Timer.stop, armed]
  · rw [← filterMap_advertised, advertised_becomeMaster _ _ (by rw [still]; decide),
      List.filterMap_cons, List.filterMap_nil]
    exact congrArg (fun x => x.elim [] fun m => [m]) (ofEffect_own s i)

theorem advertisement_spoken (s : VrrpService) (armed : s.advertisementTimer.armed = true)
    (master : s.state = .master) : Spoken (ι := ι) s (s.step .advertisementExpiry) := by
  have still : s.stopAdvertisementTimer.state = .master := master
  rw [step, advertisementExpiry, if_pos armed, onAdvertisementTimer, if_pos still]
  refine ⟨master, id, rfl, fun i => ?_⟩
  rw [List.filterMap_cons, List.filterMap_nil]
  exact congrArg (fun x => x.elim [] fun m => [m]) (ofEffect_own s i)

end VrrpService

/-! ### A Master and its followers -/

namespace Medium

variable {ι : Type} {c : Medium ι} {routers : ι → VrrpService} {b : ι} {n t : Timed ι}

/-- The advertisements of `b` are what its followers watch out for. -/
def timing (c : Medium ι) (routers : ι → VrrpService) (b : ι) : Watchdog.Timing ι where
  leader := b
  period := (routers b).advertisementInterval.value * 10 * 1000000
  slack := c.slack
  delay := c.delay
  losses := c.losses
  patience i := (routers i).downIntervalOn (routers b).advertisementInterval.toWire * 10 * 1000000

def watch (b : ι) (n : Timed ι) : Watchdog.Watch ι where
  now := n.now
  due := n.advertisement b
  flying := n.flying.map fun f => (f.receiver, f.sentAt)
  spare := n.spare
  deadline := n.masterDown

/-- What every reachable state keeps of the routers. -/
structure Settled (routers : ι → VrrpService) (n : Timed ι) : Prop where
  configured : ∀ i, (n.services i).configured = (routers i).configured
  agree : ∀ i, (n.services i).TimersAgree

/-- `b` is the Master and all others follow it. -/
structure Led (routers : ι → VrrpService) (b : ι) (n : Timed ι) : Prop where
  settled : Settled routers n
  master : (n.services b).state = .master
  ticks : (n.services b).advertisementTimer.Running
  followers : ∀ j, j ≠ b → (n.services j).state = .backup
  flying : ∀ f ∈ n.flying, f.receiver ≠ b ∧ f.message.priority = (routers b).priority.1 ∧
    f.message.interval = (routers b).advertisementInterval.toWire

theorem Settled.advertisementInterval (settled : Settled routers n) (i : ι) :
    (n.services i).advertisementInterval = (routers i).advertisementInterval :=
  have same := congrArg VrrpService.advertisementInterval (settled.configured i)
  same

theorem Settled.priority (settled : Settled routers n) (i : ι) :
    (n.services i).priority = (routers i).priority :=
  have same := congrArg VrrpService.priority (settled.configured i)
  same

/-- One delivery less. -/
theorem Led.flying_drop (led : Led routers b n) {f : Delivery ι} {before after : List (Delivery ι)}
    (flies : n.flying = before ++ f :: after) : ∀ g ∈ before ++ after,
      g.receiver ≠ b ∧ g.message.priority = (routers b).priority.1 ∧
        g.message.interval = (routers b).advertisementInterval.toWire := by
  intro g remains
  have fewer : List.Sublist (before ++ after) (before ++ f :: after) :=
    (List.sublist_cons_self f after).append_left before
  exact led.flying g (flies ▸ fewer.subset remains)

/-- Only followers wait for an advertisement. -/
theorem Led.waits_other (led : Led routers b n) {i : ι}
    (ticks : (n.services i).masterDownTimer.Ticks) : i ≠ b := by
  rintro rfl
  have backup := (led.settled.agree i).masterDown.mp ticks.1
  cases led.master.symm.trans backup

theorem Led.sends_self (led : Led routers b n) {i : ι}
    (ticks : (n.services i).advertisementTimer.Ticks) : i = b := by
  by_contra other
  have master := (led.settled.agree i).advertisement.mp ticks.1
  cases (led.followers i other).symm.trans master

/-- The deliveries as the followers see them. -/
theorem watch_flying {f : Delivery ι} {before after : List (Delivery ι)}
    (flies : n.flying = before ++ f :: after) :
    (watch b n).flying = before.map (fun g => (g.receiver, g.sentAt)) ++
      (f.receiver, f.sentAt) :: after.map fun g => (g.receiver, g.sentAt) := by
  rw [watch, flies, List.map_append, List.map_cons]

theorem led_heeds (led : Led routers b n) (best : ∀ j, (routers j).priority.1 ≤
    (routers b).priority.1) {f : Delivery ι} (flies : f ∈ n.flying) :
    (n.services f.receiver).Heeds f.message ∧
      (n.services f.receiver).waitAfter f.message =
        (routers f.receiver).downIntervalOn (routers b).advertisementInterval.toWire ∧
      0 < (n.services f.receiver).waitAfter f.message := by
  obtain ⟨_, priority, interval⟩ := led.flying f flies
  have same := led.settled.priority f.receiver
  have waits : (n.services f.receiver).waitAfter f.message =
      (routers f.receiver).downIntervalOn (routers b).advertisementInterval.toWire := by
    rw [VrrpService.waitAfter, if_neg (priority ▸ (routers b).priority.2), interval,
      VrrpService.downIntervalOn, same]
    rfl
  refine ⟨.inr (.inr ?_), waits, ?_⟩
  · rw [same, priority]
    exact best f.receiver
  · rw [waits, VrrpService.downIntervalOn]
    have positive := (routers b).advertisementInterval.positive
    have value : (routers b).advertisementInterval.toWire.val =
      (routers b).advertisementInterval.value := rfl
    omega

/-! ### After the last advertisement -/

variable {κ : Type}

/-- Everybody has heard the last advertisement of a router that is gone, each at its own time,
and nothing else since. -/
def bereft (routers : ι → VrrpService) (m : Message κ) (heard : ι → Nat) (now : Nat) :
    Timed ι where
  now := now
  services i := ((routers i).step m.event).1
  masterDown i := ((routers i).unset.step m.event).1.masterDownTimer.expiry (heard i) 0
  advertisement _ := 0
  flying := []
  spare _ := 0

/-- How long the router waits after the last advertisement, in nanoseconds. -/
def waits (routers : ι → VrrpService) (m : Message κ) (i : ι) : Nat :=
  (routers i).waitAfter m * 10 * 1000000

/-- The skew times set `b` apart from all others, by what callbacks and deliveries may take. -/
structure Succession (c : Medium ι) (routers : ι → VrrpService) (m : Message κ) (heard : ι → Nat)
    (now : Nat) (b : ι) : Prop where
  everyone : ∀ i, i ∈ c.everyone
  backup : ∀ i, (routers i).state = .backup
  agree : ∀ i, (routers i).TimersAgree
  heeds : ∀ i, (routers i).Heeds m
  heard : ∀ i, heard i ≤ now ∧ now ≤ heard i + c.delay
  best : ∀ j, (routers j).priority.1 ≤ (routers b).priority.1
  awaited : c.delay < waits routers m b
  skewed : ∀ j, j ≠ b → waits routers m b + c.slack + 2 * c.delay < waits routers m j
  patient : ∀ j, j ≠ b → Watchdog.Patient (c.timing routers b) j

variable {m : Message κ} {heard : ι → Nat} {now : Nat}

theorem bereft_settled (succession : Succession c routers m heard now b) :
    Settled routers (bereft routers m heard now) :=
  ⟨fun _ => VrrpService.step_configured _ id,
    fun i => VrrpService.step_agree _ _ (succession.agree i)⟩

theorem bereft_backup (succession : Succession c routers m heard now b) (i : ι) :
    ((bereft routers m heard now).services i).state = .backup :=
  ((routers i).step_heard m (succession.backup i) (succession.heeds i)).backup

theorem bereft_waits (succession : Succession c routers m heard now b) (i : ι) :
    (bereft routers m heard now).masterDown i = heard i + waits routers m i := by
  have started := (routers i).unset.step_heard m (succession.backup i) (succession.heeds i)
  have positive : 0 < waits routers m i := by
    by_cases here : i = b
    · have := succession.awaited
      rw [here]
      omega
    · have := succession.skewed i here
      omega
  have same : (routers i).unset.waitAfter m = (routers i).waitAfter m := rfl
  rw [waits] at positive ⊢
  change ((routers i).unset.step m.event).1.masterDownTimer.expiry (heard i) 0 = _
  rw [started.waits, same, Timer.start_expiry _ (by omega)]

theorem bereft_ticks (succession : Succession c routers m heard now b) :
    ((bereft routers m heard now).services b).masterDownTimer.Ticks := by
  have heard := (routers b).step_heard m (succession.backup b) (succession.heeds b)
  have positive := succession.awaited
  rw [waits] at positive
  refine ⟨((bereft_settled succession).agree b).masterDown.mpr (bereft_backup succession b), ?_⟩
  change Timer.Running ((routers b).step m.event).1.masterDownTimer
  rw [heard.waits, Timer.start_running_iff]
  omega

/-- Nobody is Master yet, and it is not yet late. -/
structure Waiting (c : Medium ι) (routers : ι → VrrpService) (m : Message κ) (heard : ι → Nat)
    (now : Nat) (b : ι) (n : Timed ι) : Prop where
  same : n = { bereft routers m heard now with now := n.now }
  early : n.now ≤ heard b + waits routers m b + c.slack

theorem waiting_deadline (succession : Succession c routers m heard now b)
    (waiting : Waiting c routers m heard now b n) (i : ι) :
    n.masterDown i = heard i + waits routers m i := by
  rw [waiting.same]
  exact bereft_waits succession i

theorem waiting_backup (succession : Succession c routers m heard now b)
    (waiting : Waiting c routers m heard now b n) (i : ι) :
    (n.services i).state = .backup ∧ ¬ (n.services i).advertisementTimer.Ticks := by
  have backup : (n.services i).state = .backup := by
    rw [waiting.same]
    exact bereft_backup succession i
  have agree : (n.services i).TimersAgree := by
    rw [waiting.same]
    exact (bereft_settled succession).agree i
  refine ⟨backup, fun ticks => ?_⟩
  cases backup.symm.trans (agree.advertisement.mp ticks.1)

theorem waiting_ticks (succession : Succession c routers m heard now b)
    (waiting : Waiting c routers m heard now b n) : (n.services b).masterDownTimer.Ticks := by
  have ticks := bereft_ticks succession
  rw [waiting.same]
  exact ticks

/-- The timer of any other router expires when the one of `b` is late already. -/
theorem waiting_others (succession : Succession c routers m heard now b)
    (waiting : Waiting c routers m heard now b n) {j : ι} (other : j ≠ b) :
    n.masterDown b + c.slack < n.masterDown j := by
  rw [waiting_deadline succession waiting, waiting_deadline succession waiting]
  have soon := (succession.heard b).1
  have late := (succession.heard j).2
  have apart := succession.skewed j other
  omega

/-! ### One step -/

variable [DecidableEq ι]

theorem act_settled (settled : Settled routers n) (c : Medium ι) (i : ι) {e : Event}
    (happens : ¬ e.Setter) : Settled routers (c.act n i e) := by
  have here : (c.act n i e).services i = ((n.services i).step e).1 := Function.update_self ..
  have there : ∀ j, j ≠ i → (c.act n i e).services j = n.services j := fun j other =>
    Function.update_of_ne other ..
  constructor
  · intro j
    by_cases self : j = i
    · subst self
      rw [here, VrrpService.step_configured _ happens, settled.configured]
    · rw [there j self, settled.configured]
  · intro j
    by_cases self : j = i
    · subst self
      rw [here]
      exact VrrpService.step_agree _ e (settled.agree j)
    · rw [there j self]
      exact settled.agree j

/-- What `b` sends as a Master goes to everybody else. -/
theorem act_flying (c : Medium ι) {e : Event} {m : Message ι}
    (said : ((n.services b).step e).2.filterMap (Message.ofEffect b) = [m]) :
    (c.act n b e).flying = n.flying ++
      (c.everyone.filter fun j => decide (j ≠ b)).map fun j => ⟨j, n.now, m⟩ := by
  simp only [act, said, List.flatMap_cons, List.flatMap_nil, List.append_nil]

theorem act_led (settled : Settled routers n)
    (followers : ∀ j, j ≠ b → (n.services j).state = .backup)
    (flying : ∀ f ∈ n.flying, f.receiver ≠ b ∧ f.message.priority = (routers b).priority.1 ∧
      f.message.interval = (routers b).advertisementInterval.toWire) (c : Medium ι) {e : Event}
    (happens : ¬ e.Setter) (spoken : (n.services b).Spoken (ι := ι) ((n.services b).step e)) :
    Led routers b (c.act n b e) := by
  have here : (c.act n b e).services b = ((n.services b).step e).1 := Function.update_self ..
  refine ⟨act_settled settled c b happens, ?_, ?_, fun j other => ?_, fun f flies => ?_⟩
  · rw [here, spoken.master]
  · rw [here, spoken.advertisement, Timer.start_running_iff]
    have := (n.services b).advertisementInterval.positive
    omega
  · have there : (c.act n b e).services j = n.services j := Function.update_of_ne other ..
    rw [there, followers j other]
  · rw [act_flying c (spoken.said b)] at flies
    rcases List.mem_append.mp flies with before | now
    · exact flying f before
    · obtain ⟨j, other, rfl⟩ := List.mem_map.mp now
      refine ⟨of_decide_eq_true (List.mem_filter.mp other).2, ?_, ?_⟩
      · exact congrArg Subtype.val (settled.priority b)
      · exact congrArg AdvertisementInterval.toWire (settled.advertisementInterval b)

/-- Who speaks is on its way to everybody else, and speaks again after its interval. -/
theorem watch_spoken (settled : Settled routers n) (everyone : ∀ i, i ∈ c.everyone) {e : Event}
    (spoken : (n.services b).Spoken (ι := ι) ((n.services b).step e))
    (started : (n.services b).unset.Spoken (ι := ι) ((n.services b).unset.step e)) :
    ∃ sent : List (ι × Nat), (∀ i, i ≠ b → (i, n.now) ∈ sent) ∧ (∀ f ∈ sent, f.2 = n.now) ∧
      watch b (c.act n b e) = { watch b n with
        due := n.now + (c.timing routers b).period
        flying := (watch b n).flying ++ sent } := by
  have idle : ((n.services b).unset.step e).1.masterDownTimer.expiry n.now (n.masterDown b) =
      n.masterDown b := if_neg fun runs => started.waits runs rfl
  have due : ((n.services b).unset.step e).1.advertisementTimer.expiry n.now
      (n.advertisement b) = n.now + (c.timing routers b).period := by
    have positive := (n.services b).unset.advertisementInterval.positive
    rw [started.advertisement, Timer.start_expiry _ (by omega)]
    have same : (n.services b).unset.advertisementInterval = (routers b).advertisementInterval :=
      settled.advertisementInterval b
    rw [same]
    rfl
  refine ⟨(c.everyone.filter fun j => decide (j ≠ b)).map fun j => (j, n.now), ?_, ?_, ?_⟩
  · exact fun i other => List.mem_map.mpr ⟨i, List.mem_filter.mpr ⟨everyone i,
      decide_eq_true other⟩, rfl⟩
  · intro f inside
    obtain ⟨j, _, rfl⟩ := List.mem_map.mp inside
    rfl
  · simp only [watch, act_flying c (spoken.said b), List.map_append, List.map_map]
    simp only [act, idle, due, Function.update_self, Function.update_eq_self]
    rfl

/-- A follower that hears `b` sets its timer again. -/
theorem watch_heard (c : Medium ι) {j : ι} (other : j ≠ b) {m : Message ι}
    (backup : (n.services j).state = .backup) (heeds : (n.services j).Heeds m)
    (positive : 0 < (n.services j).waitAfter m) :
    ((c.act n j m.event).services j).state = .backup ∧
      (c.act n j m.event).flying = n.flying ∧
      watch b (c.act n j m.event) = { watch b n with
        deadline := Function.update n.masterDown j
          (n.now + (n.services j).waitAfter m * 10 * 1000000) } := by
  have heard := (n.services j).step_heard m backup heeds
  have started := (n.services j).unset.step_heard m backup heeds
  have moved : ((n.services j).unset.step m.event).1.masterDownTimer.expiry n.now
      (n.masterDown j) = n.now + (n.services j).waitAfter m * 10 * 1000000 := by
    have waits : (n.services j).unset.waitAfter m = (n.services j).waitAfter m := rfl
    rw [started.waits, waits, Timer.start_expiry _ (by omega)]
  have silent : (c.act n j m.event).flying = n.flying := by
    simp [act, heard.silent]
  have services : (c.act n j m.event).services j = ((n.services j).step m.event).1 :=
    Function.update_self ..
  refine ⟨by rw [services, heard.backup], silent, ?_⟩
  simp only [watch, silent]
  simp only [act, moved, Function.update_of_ne other.symm]

theorem led_speaks (led : Led routers b n) (everyone : ∀ i, i ∈ c.everyone)
    (ticks : (n.services b).advertisementTimer.Ticks) :
    let u := c.act n b .advertisementExpiry
    Led routers b u ∧ u.advertisement b = n.now + (c.timing routers b).period ∧
      Watchdog.Step (c.timing routers b) (watch b n) (watch b u) := by
  intro u
  have spoken := (n.services b).advertisement_spoken (ι := ι) ticks.1 led.master
  have started := (n.services b).unset.advertisement_spoken (ι := ι) ticks.1 led.master
  obtain ⟨sent, all, only, same⟩ := watch_spoken led.settled everyone spoken started
  refine ⟨act_led led.settled led.followers led.flying c id spoken,
    congrArg Watchdog.Watch.due same, ?_⟩
  rw [same]
  exact .beat (watch b n) _ ⟨Nat.le_add_right .., Nat.le_refl _⟩ sent all only

theorem led_hears (led : Led routers b n)
    (best : ∀ j, (routers j).priority.1 ≤ (routers b).priority.1) (c : Medium ι) {f : Delivery ι}
    {before after : List (Delivery ι)} (flies : n.flying = before ++ f :: after) :
    let u := c.act (n.take f.receiver (before ++ after) c.losses) f.receiver f.message.event
    Led routers b u ∧ u.flying = before ++ after ∧
      Watchdog.Step (c.timing routers b) (watch b n) (watch b u) := by
  intro u
  have inside : f ∈ n.flying := flies ▸ List.mem_append_right _ List.mem_cons_self
  obtain ⟨other, _, _⟩ := led.flying f inside
  obtain ⟨heeds, waits, positive⟩ := led_heeds led best inside
  have settled : Settled routers (n.take f.receiver (before ++ after) c.losses) :=
    ⟨led.settled.configured, led.settled.agree⟩
  have followed : ((n.take f.receiver (before ++ after) c.losses).services f.receiver).state =
    .backup := led.followers f.receiver other
  obtain ⟨backup, silent, watched⟩ := watch_heard c other followed heeds positive
  have there : ∀ j, j ≠ f.receiver → u.services j = n.services j := fun j apart =>
    Function.update_of_ne apart ..
  refine ⟨⟨act_settled settled c _ id, ?_, ?_, fun j apart => ?_, fun g remains => ?_⟩, silent, ?_⟩
  · rw [there b other.symm, led.master]
  · rw [there b other.symm]
    exact led.ticks
  · by_cases here : j = f.receiver
    · rw [here, backup]
    · rw [there j here, led.followers j apart]
  · rw [silent] at remains
    exact led.flying_drop flies g remains
  · rw [watched]
    have moved : n.now + (c.timing routers b).patience f.receiver ≤
        n.now + (n.services f.receiver).waitAfter f.message * 10 * 1000000 := by
      rw [waits]
      exact Nat.le_refl _
    have step := Watchdog.Step.receive (watch b n) f.receiver f.sentAt _ _ _
      (watch_flying flies) moved
    rw [← List.map_append] at step
    exact step

/-- `b` is the Master, and its next advertisements are in time for everybody. -/
structure Leads (c : Medium ι) (routers : ι → VrrpService) (b : ι) (n : Timed ι) : Prop where
  led : Led routers b n
  guarded : Watchdog.Guarded (c.timing routers b) (watch b n)

theorem Leads.ticks (leads : Leads c routers b n) :
    (n.services b).advertisementTimer.Ticks :=
  ⟨(leads.led.settled.agree b).advertisement.mpr leads.led.master, leads.led.ticks⟩

theorem led_step (leads : Leads c routers b n) (everyone : ∀ i, i ∈ c.everyone)
    (best : ∀ j, (routers j).priority.1 ≤ (routers b).priority.1) (step : c.Step n t) :
    Led routers b t ∧ Watchdog.Step (c.timing routers b) (watch b n) (watch b t) := by
  obtain ⟨led, guarded⟩ := leads
  have ticks := Leads.ticks ⟨led, guarded⟩
  cases step with
  | wait d masterDown advertisement flying =>
    refine ⟨⟨⟨led.settled.configured, led.settled.agree⟩, led.master, led.ticks, led.followers,
      led.flying⟩, .wait (watch b n) d (advertisement b ticks) fun g inside => ?_⟩
    obtain ⟨f, flies, rfl⟩ := List.mem_map.mp inside
    exact flying f flies
  | masterDown i armed expired =>
    have awake := guarded.awake (led.waits_other armed)
    exact absurd expired (Nat.not_le.mpr awake)
  | advertisement i armed expired =>
    obtain rfl := led.sends_self armed
    obtain ⟨still, _, watched⟩ := led_speaks led everyone ticks
    exact ⟨still, watched⟩
  | deliver f before after flies =>
    obtain ⟨still, _, watched⟩ := led_hears led best c flies
    exact ⟨still, watched⟩
  | lose f left before after flies spared =>
    refine ⟨⟨⟨led.settled.configured, led.settled.agree⟩, led.master, led.ticks, led.followers,
      led.flying_drop flies⟩, ?_⟩
    have step := Watchdog.Step.lose (t := c.timing routers b) (watch b n) f.receiver f.sentAt
      left _ _ (watch_flying flies) spared
    rw [← List.map_append] at step
    exact step

theorem waiting_takes (succession : Succession c routers m heard now b)
    (waiting : Waiting c routers m heard now b n) :
    Leads c routers b (c.act n b .masterDownExpiry) := by
  obtain ⟨same, early⟩ := waiting
  generalize n.now = later at same early
  subst same
  have settled : Settled routers { bereft routers m heard now with now := later } :=
    ⟨(bereft_settled succession).configured, (bereft_settled succession).agree⟩
  have spoken := VrrpService.masterDown_spoken (ι := ι) _ (bereft_ticks succession).1
    (bereft_backup succession b)
  have started := VrrpService.masterDown_spoken (ι := ι)
    (((bereft routers m heard now).services b).unset) (bereft_ticks succession).1
    (bereft_backup succession b)
  obtain ⟨sent, all, only, watched⟩ := watch_spoken settled succession.everyone spoken started
  refine ⟨act_led settled (fun j _ => bereft_backup succession j) (fun f flies => absurd flies
    List.not_mem_nil) c id spoken, ?_⟩
  rw [watched]
  apply Watchdog.guarded_first ⟨Nat.le_add_right .., Nat.le_refl _⟩ all only (fun _ => rfl)
  intro j other
  have soon := (succession.heard b).1
  have late := (succession.heard j).2
  have apart := succession.skewed j other
  have deadline : (watch b { bereft routers m heard now with now := later }).deadline j =
    heard j + waits routers m j := bereft_waits succession j
  dsimp only
  rw [deadline]
  change later + c.delay < _
  omega

theorem waiting_step (succession : Succession c routers m heard now b)
    (waiting : Waiting c routers m heard now b n) (step : c.Step n t) :
    Waiting c routers m heard now b t ∨ Leads c routers b t := by
  have silent : n.flying = [] := by
    rw [waiting.same]
    rfl
  have deadline := waiting_deadline succession waiting b
  cases step with
  | wait d masterDown =>
    refine .inl ⟨by rw [waiting.same], ?_⟩
    have := masterDown b (waiting_ticks succession waiting)
    dsimp only
    omega
  | masterDown i ticks expired =>
    by_cases here : i = b
    · subst here
      exact .inr (waiting_takes succession waiting)
    · have := waiting_others succession waiting here
      have := waiting.early
      omega
  | advertisement i ticks => exact absurd ticks (waiting_backup succession waiting i).2
  | deliver f before after flies | lose f left before after flies =>
    rw [silent] at flies
    exact absurd flies.symm (List.append_ne_nil_of_right_ne_nil _ (List.cons_ne_nil _ _))

theorem leads_step (succession : Succession c routers m heard now b)
    (leads : Leads c routers b n) (step : c.Step n t) : Leads c routers b t := by
  obtain ⟨led, watched⟩ := led_step leads succession.everyone succession.best step
  exact ⟨led, leads.guarded.step succession.patient watched⟩

theorem leads_reachable (succession : Succession c routers m heard now b)
    (leads : Leads c routers b n) (reached : c.Reachable n t) : Leads c routers b t := by
  induction reached with
  | refl => exact leads
  | tail _ step ih => exact leads_step succession ih step

theorem succession_reachable (succession : Succession c routers m heard now b)
    (reached : c.Reachable (bereft routers m heard now) n) :
    Waiting c routers m heard now b n ∨ Leads c routers b n := by
  induction reached with
  | refl =>
    refine .inl ⟨rfl, ?_⟩
    have late := (succession.heard b).2
    have awaited := succession.awaited
    change now ≤ _
    omega
  | tail _ step ih =>
    rcases ih with waiting | leads
    · exact waiting_step succession waiting step
    · exact .inr (leads_step succession leads step)

/-! ### Time goes on -/

theorem leads_drains (succession : Succession c routers m heard now b)
    (leads : Leads c routers b n) :
    ∃ t, c.Reachable n t ∧ Leads c routers b t ∧ t.flying = [] ∧ t.now = n.now ∧
      t.advertisement b = n.advertisement b := by
  generalize flies : n.flying = flying
  induction flying generalizing n with
  | nil => exact ⟨n, .refl, leads, flies, rfl, rfl⟩
  | cons f after ih =>
    have step := Step.deliver (c := c) n f [] after flies
    have next := leads_step succession leads step
    have front : n.flying = [] ++ f :: after := flies
    obtain ⟨_, rest, _⟩ := led_hears leads.led succession.best c front
    have other := (leads.led.flying f (flies ▸ List.mem_cons_self)).1
    obtain ⟨t, reaches, still, silent, here, due⟩ := ih next rest
    refine ⟨t, .head step reaches, still, silent, here, due.trans ?_⟩
    exact Function.update_of_ne other.symm ..

theorem leads_waits (leads : Leads c routers b n) (silent : n.flying = [])
    (early : n.now < n.advertisement b) : ∃ t, c.Step n t ∧ n.now < t.now := by
  refine ⟨_, .wait n 1 (fun i ticks => ?_) (fun i ticks => ?_) fun f flies => ?_,
    Nat.lt_succ_self _⟩
  · have awake : n.now < n.masterDown i := leads.guarded.awake (leads.led.waits_other ticks)
    omega
  · rw [leads.led.sends_self ticks]
    omega
  · rw [silent] at flies
    exact absurd flies List.not_mem_nil

theorem leads_goes_on (succession : Succession c routers m heard now b)
    (leads : Leads c routers b n) : ∃ t, c.Reachable n t ∧ n.now < t.now := by
  obtain ⟨t, reaches, still, silent, here, _⟩ := leads_drains succession leads
  by_cases early : t.now < t.advertisement b
  · obtain ⟨u, step, later⟩ := leads_waits still silent early
    exact ⟨u, .tail reaches step, here ▸ later⟩
  -- the advertisement is due: it is sent and arrives at once, and the next one is not due yet
  have speaks := Step.advertisement (c := c) t b still.ticks (Nat.not_lt.mp early)
  obtain ⟨u, arrives, settled, quiet, same, due⟩ :=
    leads_drains succession (leads_step succession still speaks)
  have positive := (routers b).advertisementInterval.positive
  have next : u.now < u.advertisement b := by
    rw [due, (led_speaks still.led succession.everyone still.ticks).2.1, same]
    change t.now < t.now + (routers b).advertisementInterval.value * 10 * 1000000
    omega
  obtain ⟨v, step, later⟩ := leads_waits settled quiet next
  rw [same] at later
  exact ⟨v, .tail ((reaches.tail speaks).trans arrives) step, Nat.lt_of_le_of_lt here.ge later⟩

theorem waiting_goes_on (succession : Succession c routers m heard now b)
    (waiting : Waiting c routers m heard now b n) : ∃ t, c.Reachable n t ∧ n.now < t.now := by
  by_cases early : n.now < n.masterDown b
  · refine ⟨_, .single (.wait n 1 (fun i _ => ?_) (fun i ticks => ?_) fun f flies => ?_),
      Nat.lt_succ_self _⟩
    · by_cases here : i = b
      · rw [here]
        omega
      · have := waiting_others succession waiting here
        omega
    · exact absurd ticks (waiting_backup succession waiting i).2
    · rw [waiting.same] at flies
      exact absurd flies List.not_mem_nil
  · have ticks := waiting_ticks succession waiting
    obtain ⟨t, reaches, later⟩ := leads_goes_on succession (waiting_takes succession waiting)
    exact ⟨t, .head (.masterDown n b ticks (Nat.not_lt.mp early)) reaches, later⟩

/-- When the Master is gone and everybody has heard its last advertisement, exactly one router
follows it: the others are Backup in every state that is reached, `b` waits no longer than its
timer runs, and once it is Master it stays Master. Its advertisements may be lost on the way, up
to `losses` in a row after one that arrives. Time always goes on. -/
theorem one_successor (c : Medium ι) (routers : ι → VrrpService) (m : Message κ) (heard : ι → Nat)
    (now : Nat) (b : ι) (succession : Succession c routers m heard now b) (n : Timed ι)
    (reached : c.Reachable (bereft routers m heard now) n) :
    (∀ j, j ≠ b → (n.services j).state = .backup) ∧
      ((n.services b).state = .backup ∧ n.now ≤ heard b + waits routers m b + c.slack ∨
        ∀ t, c.Reachable n t → (t.services b).state = .master) ∧
      ∃ t, c.Reachable n t ∧ n.now < t.now := by
  rcases succession_reachable succession reached with waiting | leads
  · refine ⟨fun j _ => (waiting_backup succession waiting j).1, .inl ⟨?_, waiting.early⟩,
      waiting_goes_on succession waiting⟩
    exact (waiting_backup succession waiting b).1
  · exact ⟨leads.led.followers, .inr fun t later =>
      (leads_reachable succession leads later).led.master, leads_goes_on succession leads⟩

/-- Priorities 200 and 100. -/
def heirs (i : Bool) : VrrpService :=
  ((VrrpService.sample (if i then 2 else 1)).run
    [.setPriority (if i then 200 else 100), .enable true]).1

def lossy : Medium Bool := ⟨[false, true], 5000000, 1000000, 2⟩

def lastWords : Message Unit :=
  ⟨(), .sample 3, 255, (VrrpService.sample 3).advertisementInterval.toWire, []⟩

def heardAt (i : Bool) : Nat := if i then 0 else 500000

theorem heirs_succession : Succession lossy heirs lastWords heardAt 1000000 true where
  everyone := by decide
  backup := by decide +kernel
  agree i := VrrpService.run_agree (VrrpService.construct_agree (VrrpService.construct_sample _)) _
  heeds i := .inr (.inr (by cases i <;> decide +kernel))
  heard := by decide
  best := by decide +kernel
  awaited := by decide +kernel
  skewed := by decide +kernel
  patient := by
    unfold Watchdog.Patient
    decide +kernel

def inherited : Timed Bool :=
  lossy.act { bereft heirs lastWords heardAt 1000000 with now := 3210000000 } true
    .masterDownExpiry

theorem inherited_reachable :
    lossy.Reachable (bereft heirs lastWords heardAt 1000000) inherited := by
  refine .tail (.single (.wait _ 3209000000 ?_ ?_ ?_)) (.masterDown _ true ?_ ?_)
  all_goals decide +kernel

/-- The better router takes over after 3.21 s. -/
theorem one_successor_heirs : (inherited.services false).state = .backup ∧
    ∀ t, lossy.Reachable inherited t → (t.services true).state = .master := by
  obtain ⟨others, leads, _⟩ := one_successor lossy heirs lastWords heardAt 1000000 true
    heirs_succession inherited inherited_reachable
  refine ⟨others false (by decide), leads.resolve_left fun waits => ?_⟩
  have master : (inherited.services true).state = .master := by decide +kernel
  cases waits.1.symm.trans master

end Medium

end OpenVrrp
