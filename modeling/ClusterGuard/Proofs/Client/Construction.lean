import ClusterGuard.Client.Basic
import ClusterGuard.Proofs.Result

/-!
# Making a client

A client is made in steps that can fail one after the other: its policies, the text connection, the
binary connection; and before them, if it is made from a configuration, the checks of the
configuration and whatever opens the transport. A step that fails leaves nothing behind that an
earlier one has opened.

What is done to a driver is told for all drivers, of which the transports in memory are one. The
`Call`s made of a driver are kept in a journal.

Results:
* `topologyConfig_valid`, **`policies_eq`**: the policies fail for the first invalid configuration,
  and for no other reason.
* `dial_journaled`: what connecting comes to, call by call.
* **`create_eq`**: a client in memory is made as any driver makes it.
* **`failed_construction_leaves_nothing_behind`**: what is left where no client could be made.
-/

namespace ClusterGuard

open Memory (Lane)

/-! ## Drivers -/

/-- How a driver with states `δ` is told its options, how it connects, and how it closes. -/
structure Driver (δ : Type) where
  setOptions : DriverOptions → δ → δ
  /-- Opens the connection of a lane, or tells why not. -/
  connect : Lane → δ → Option Fault × δ
  close : Lane → δ → δ

namespace Driver

variable {δ : Type}

/-- Tells the driver its options and connects both lanes. Nothing stays open if that fails. -/
def dial (d : Driver δ) (timeout : Duration) (t : δ) : Option Fault × δ :=
  let t := d.setOptions (.faultTolerant timeout) t
  match d.connect .text t with
  | (some fault, t) => (some fault, t)
  | (none, t) =>
    match d.connect .binary t with
    | (some fault, t) => (some fault, d.close .text t)
    | (none, t) => (none, t)

section Dial

variable {d : Driver δ} {timeout : Duration} {t t' t'' : δ} {fault : Fault}

theorem dial_of_text
    (h : d.connect .text (d.setOptions (.faultTolerant timeout) t) = (some fault, t')) :
    d.dial timeout t = (some fault, t') := by
  simp only [dial, h]

theorem dial_of_binary
    (h : d.connect .text (d.setOptions (.faultTolerant timeout) t) = (none, t'))
    (h' : d.connect .binary t' = (some fault, t'')) :
    d.dial timeout t = (some fault, d.close .text t'') := by
  simp only [dial, h, h']

theorem dial_of_both
    (h : d.connect .text (d.setOptions (.faultTolerant timeout) t) = (none, t'))
    (h' : d.connect .binary t' = (none, t'')) : d.dial timeout t = (none, t'') := by
  simp only [dial, h, h']

end Dial

/-- The driver that never touches a network. -/
def memory : Driver Memory.Transport where
  setOptions options t := t.setOptions options
  connect lane t := (t.refusal? lane, t)
  close lane t := t.close lane

/-- Something that was asked of a driver, and how it went. -/
inductive Call where
  | setOptions (options : DriverOptions)
  | opened (lane : Lane)
  | refused (lane : Lane) (fault : Fault)
  | closed (lane : Lane)

/-- The driver with a journal of the calls made of it. -/
def journaled (d : Driver δ) : Driver (δ × List Call) where
  setOptions options t := (d.setOptions options t.1, t.2 ++ [.setOptions options])
  connect lane t :=
    let (refusal, rest) := d.connect lane t.1
    (refusal, rest, t.2 ++ [refusal.elim (.opened lane) (.refused lane)])
  close lane t := (d.close lane t.1, t.2 ++ [.closed lane])

/-- The connections that are open after some calls. -/
def openAfter (calls : List Call) : List Lane :=
  calls.foldl (fun lanes call => match call with
    | .opened lane => lanes ++ [lane]
    | .closed lane => lanes.filter (· ≠ lane)
    | _ => lanes) []

/-- What is in the journal after connecting, by how that went. -/
def Dialled (timeout : Duration) (calls : List Call) : Option Fault → Prop
  | none => calls = [.setOptions (.faultTolerant timeout), .opened .text, .opened .binary]
  | some fault =>
    calls = [.setOptions (.faultTolerant timeout), .refused .text fault] ∨
      calls = [.setOptions (.faultTolerant timeout), .opened .text, .refused .binary fault,
        .closed .text]

theorem connect_journaled {d : Driver δ} {lane : Lane} {t t' : δ} {refusal : Option Fault}
    (h : d.connect lane t = (refusal, t')) (calls : List Call) :
    d.journaled.connect lane (t, calls)
      = (refusal, t', calls ++ [refusal.elim (.opened lane) (.refused lane)]) := by
  simp only [journaled, h]

/-- **Connecting**, call by call. -/
theorem dial_journaled (d : Driver δ) (timeout : Duration) (t : δ) :
    let dialled := d.journaled.dial timeout (t, [])
    Dialled timeout dialled.2.2 dialled.1 := by
  let told := d.setOptions (.faultTolerant timeout) t
  let calls : List Call := [.setOptions (.faultTolerant timeout)]
  rcases htext : d.connect .text told with ⟨refusal, t'⟩
  have hjournal := connect_journaled htext calls
  cases refusal with
  | some fault =>
    rw [dial_of_text hjournal]
    exact .inl rfl
  | none =>
    rcases hbinary : d.connect .binary t' with ⟨refusal, t''⟩
    have hjournal' := connect_journaled hbinary (calls ++ [.opened .text])
    cases refusal with
    | some fault =>
      rw [dial_of_binary hjournal hjournal']
      exact .inr rfl
    | none =>
      rw [dial_of_both hjournal hjournal']
      exact rfl

/-- Where connecting fails, every connection that was opened was closed. -/
theorem Dialled.openAfter {timeout : Duration} {calls : List Call} {fault : Fault}
    (h : Dialled timeout calls (some fault)) : openAfter calls = [] := by
  rcases h with rfl | rfl
  · rfl
  · rfl

end Driver

namespace Client

variable {ω δ : Type} {name : String} {breaker : Breaker.Config} {retry : Retry.Config}
  {draw : Nat → Binary .double} {own : ω}

/-! ## Policies -/

/-- The policies of a client whose configurations are valid. -/
def soundPolicies (name : String) (breaker : Breaker.Config) (retry : Retry.Config)
    (draw : Nat → Binary .double) (own : ω) : PubSub.Shared ω where
  guard := ⟨.fresh (name ++ "-breaker") breaker .zero,
    ⟨name ++ "-retry", retry, Guard.policy, draw, {}⟩⟩
  topology := ⟨name ++ "-topology-changed-retry", topologyConfig, .always, draw, {}⟩
  own := own

/-- Refuses the configurations of a client for the first invalid one; the breaker is looked at
before the retry. -/
def validatePolicies (breaker : Breaker.Config) (retry : Retry.Config) :
    Except ConfigError Unit := do
  breaker.validate
  retry.validate

theorem topologyConfig_valid : topologyConfig.Valid := by decide +kernel

/-- **Only the configurations** of the breaker and of the retry can make the policies fail, in this
order. -/
theorem policies_eq (name : String) (breaker : Breaker.Config) (retry : Retry.Config)
    (draw : Nat → Binary .double) (own : ω) :
    policies name breaker retry draw own
      = (validatePolicies breaker retry).map fun _ =>
          soundPolicies name breaker retry draw own := by
  have htopology := (Retry.Config.validate_ok_iff _).mpr topologyConfig_valid
  unfold policies validatePolicies Guard.create Breaker.create Retry.create
  rw [htopology]
  cases breaker.validate with
  | error e => rfl
  | ok _ =>
    cases retry.validate with
    | error e => rfl
    | ok _ => rfl

/-! ## Clients of any driver -/

/-- Makes the policies of a client, and connects a driver. -/
def construct (d : Driver δ) (name : String) (t : δ) (timeout : Duration) (breaker : Breaker.Config)
    (retry : Retry.Config) (draw : Nat → Binary .double) (own : ω) :
    Except Fault (PubSub.Shared ω) × δ :=
  match policies name breaker retry draw own with
  | .error e => (.error (.misconfigured e), t)
  | .ok shared =>
    match d.dial timeout t with
    | (some fault, t) => (.error fault, t)
    | (none, t) => (.ok shared, t)

/-- **A client in memory** is made as any driver makes it. -/
theorem create_eq (name : String) (transport : Memory.Transport) (timeout : Duration)
    (breaker : Breaker.Config) (retry : Retry.Config) (draw : Nat → Binary .double) (own : ω) :
    create name transport timeout breaker retry draw own =
      match construct .memory name transport timeout breaker retry draw own with
      | (.error fault, transport) => .error (fault, transport)
      | (.ok shared, transport) => .ok { name, transport, shared } := by
  unfold create construct
  cases policies name breaker retry draw own with
  | error e => rfl
  | ok shared =>
    have hconnect (lane : Lane) (t : Memory.Transport) :
        Driver.memory.connect lane t = (t.refusal? lane, t) := rfl
    have htext := hconnect .text (transport.setOptions (.faultTolerant timeout))
    have hbinary := hconnect .binary (transport.setOptions (.faultTolerant timeout))
    unfold connect
    cases hrefused : (transport.setOptions (.faultTolerant timeout)).refusal? .text with
    | some fault =>
      rw [hrefused] at htext
      simp only [Driver.dial_of_text htext, hrefused]
    | none =>
      rw [hrefused] at htext
      cases hrefused' : (transport.setOptions (.faultTolerant timeout)).refusal? .binary with
      | some fault =>
        rw [hrefused'] at hbinary
        simp only [Driver.dial_of_binary htext hbinary, hrefused, hrefused']
        rfl
      | none =>
        rw [hrefused'] at hbinary
        simp only [Driver.dial_of_both htext hbinary, hrefused, hrefused']

/-- Connecting in memory fails only where the transport refuses a connection. -/
theorem refusal_of_connect {transport left : Memory.Transport} {timeout : Duration}
    {shared : PubSub.Shared ω} {fault : Fault}
    (h : connect name transport timeout shared = .error (fault, left)) :
    ∃ lane, transport.refusal? lane = some fault := by
  unfold connect at h
  simp only at h
  split at h
  · rename_i fault' hrefused
    cases h
    exact ⟨.text, hrefused⟩
  · split at h
    · rename_i fault' hrefused
      cases h
      exact ⟨.binary, hrefused⟩
    · cases h

/-- **What construction returns**: a client with valid configurations, that has opened nothing but
its two command connections. -/
theorem created_of_create {transport : Memory.Transport} {timeout : Duration} {c : Client ω}
    (h : create name transport timeout breaker retry draw own = .ok c) :
    breaker.Valid ∧ retry.Valid ∧
      c = { name
            transport := transport.setOptions (.faultTolerant timeout)
            shared := soundPolicies name breaker retry draw own } := by
  unfold create at h
  rw [policies_eq, validatePolicies] at h
  cases hb : breaker.validate with
  | error e => simp [hb, bind, Except.bind, Except.map] at h
  | ok u =>
    cases hr : retry.validate with
    | error e => simp [hb, hr, bind, Except.bind, Except.map] at h
    | ok v =>
      simp only [hb, hr, bind, Except.bind, Except.map, connect] at h
      refine ⟨(Breaker.Config.validate_ok_iff breaker).mp hb,
        (Retry.Config.validate_ok_iff retry).mp hr, ?_⟩
      split at h
      · cases h
      · split at h
        · cases h
        · exact (Except.ok.inj h).symm

/-! ## Clients of a configuration -/

/-- A way to open a transport that keeps a journal of the endpoints it was asked for. -/
def noting {κ : Type} (open? : Endpoint → κ → Except Fault Memory.Transport × κ)
    (endpoint : Endpoint) (k : κ × List Endpoint) :
    Except Fault Memory.Transport × κ × List Endpoint :=
  let (opened, rest) := open? endpoint k.1
  (opened, rest, k.2 ++ [endpoint])

/-- What comes of a valid configuration, by what asking for a transport comes to. -/
def Answered (name : String) (draw : Nat → Binary .double) (own : ω) (c : Configuration)
    (made : Except (Fault × Option Memory.Transport) (Client ω)) :
    Except Fault Memory.Transport → Prop
  | .error fault => made = .error (fault, none)
  | .ok transport =>
    -- The policies are made, so nothing is left to fail but the transport.
    (∃ breaker retry, c.breaker.config = .ok breaker ∧ c.retry.config = .ok retry ∧
      made = (connect name transport c.timeout
        (soundPolicies name breaker retry draw own)).mapError fun (fault, left) =>
          (fault, some left)) ∧
    ∀ fault left, made = .error (fault, left) → ∃ lane, transport.refusal? lane = some fault

/-- What comes of a configuration, and which endpoints a transport is asked for. -/
structure Configured {κ : Type} (name : String) (draw : Nat → Binary .double) (own : ω)
    (c : Configuration) (open? : Endpoint → κ → Except Fault Memory.Transport × κ) (k : κ)
    (made : Except (Fault × Option Memory.Transport) (Client ω) × κ × List Endpoint) : Prop where
  /-- An invalid configuration is reported as such, and nobody is asked for a transport. -/
  invalid : ∀ e, c.validate = .error e → made = (.error (.misconfigured e, none), k, [])
  /-- A valid one has an endpoint with its timeout, for which a transport is asked for once. -/
  valid : c.validate = .ok () → ∃ endpoint, c.endpoint = .ok endpoint ∧
    endpoint.timeout = c.timeout ∧ made.2 = ((open? endpoint k).2, [endpoint]) ∧
      Answered name draw own c made.1 (open? endpoint k).1

theorem endpoint_timeout {c : Configuration} {endpoint : Endpoint}
    (h : c.endpoint = .ok endpoint) : endpoint.timeout = c.timeout := by
  unfold Configuration.endpoint Endpoint.parse at h
  split at h
  · cases h
    rfl
  · cases h

/-- The settings of a breaker make a valid configuration, if they make one. -/
theorem validate_breaker {s : Configuration.BreakerSettings} {b : Breaker.Config}
    (h : s.config = .ok b) : b.validate = .ok () := by
  obtain ⟨u, hv, rfl⟩ := exists_of_map_eq_ok h
  exact hv

/-- The settings of a retry make a valid configuration, if they make one. -/
theorem validate_retry {s : Configuration.RetrySettings} {r : Retry.Config}
    (h : s.config = .ok r) : r.validate = .ok () := by
  obtain ⟨u, hv, rfl⟩ := exists_of_map_eq_ok h
  exact hv

/-- The policies of a valid configuration are made. -/
theorem create_of_valid (hb : breaker.validate = .ok ()) (hr : retry.validate = .ok ())
    (transport : Memory.Transport) (timeout : Duration) :
    create name transport timeout breaker retry draw own
      = connect name transport timeout (soundPolicies name breaker retry draw own) := by
  unfold create
  rw [policies_eq, validatePolicies, hb, hr]
  rfl

/-- **Clients of a configuration** are made only if it is valid, and then only the transport can
fail. -/
theorem configured_ofConfiguration {κ : Type} (name : String) (draw : Nat → Binary .double)
    (own : ω) (c : Configuration) (open? : Endpoint → κ → Except Fault Memory.Transport × κ)
    (k : κ) :
    Configured name draw own c open? k
      (ofConfiguration name c (noting open?) draw own (k, [])) := by
  cases hv : c.validate with
  | error e =>
    have hmade : ofConfiguration name c (noting open?) draw own (k, [])
        = (.error (.misconfigured e, none), k, []) := by
      simp only [ofConfiguration, hv]
      rfl
    refine ⟨fun e' he => ?_, fun hok => ?_⟩
    · obtain rfl := Except.error.inj (hv.symm.trans he)
      exact hmade
    · rw [hv] at hok
      cases hok
  | ok u =>
    obtain ⟨-, ⟨endpoint, hendpoint⟩, ⟨b, hb⟩, r, hr⟩ := c.validate_ok_iff.mp hv
    refine ⟨fun e he => (by rw [hv] at he; cases he), fun _ => ?_⟩
    refine ⟨endpoint, hendpoint, endpoint_timeout hendpoint, ?_⟩
    rcases hopen : open? endpoint k with ⟨fault | transport, k'⟩
    · have hmade : ofConfiguration name c (noting open?) draw own (k, [])
          = (.error (fault, none), k', [endpoint]) := by
        simp only [ofConfiguration, hv, hendpoint, hb, hr]
        simp [noting, hopen, bind, Except.bind, pure, Except.pure]
      rw [hmade]
      exact ⟨rfl, rfl⟩
    · have hmade : ofConfiguration name c (noting open?) draw own (k, [])
          = ((connect name transport c.timeout (soundPolicies name b r draw own)).mapError
              fun (fault, left) => (fault, some left), k', [endpoint]) := by
        simp only [ofConfiguration, hv, hendpoint, hb, hr]
        simp [noting, hopen, bind, Except.bind, pure, Except.pure,
          create_of_valid (validate_breaker hb) (validate_retry hr), endpoint_timeout hendpoint]
      rw [hmade]
      refine ⟨rfl, ⟨b, r, hb, hr, rfl⟩, fun fault left hleft => ?_⟩
      obtain ⟨⟨fault', left'⟩, hconnect, heq⟩ := exists_of_mapError_eq_error hleft
      cases heq
      exact refusal_of_connect hconnect

/-! ## What is left -/

/-- What is left of a driver in state `t`, and of the calls made of it, where no client could be
made of it. -/
structure Undone (timeout : Duration) (breaker : Breaker.Config) (retry : Retry.Config) (t : δ)
    (fault : Fault) (left : δ × List Driver.Call) : Prop where
  /-- What is misconfigured is reported before the driver is asked for anything. -/
  misconfigured : ∀ e, validatePolicies breaker retry = .error e →
    fault = .misconfigured e ∧ left = (t, [])
  /-- Otherwise the driver has refused a connection, and that is what is reported. -/
  refused : validatePolicies breaker retry = .ok () → Driver.Dialled timeout left.2 (some fault)
  /-- No connection is open that was opened. -/
  closed : Driver.openAfter left.2 = []

theorem undone_of_construct {d : Driver δ} {t : δ} {timeout : Duration} {fault : Fault}
    {left : δ × List Driver.Call}
    (h : construct d.journaled name (t, []) timeout breaker retry draw own = (.error fault, left)) :
    Undone timeout breaker retry t fault left := by
  unfold construct at h
  rw [policies_eq] at h
  cases hv : validatePolicies breaker retry with
  | error e =>
    rw [hv] at h
    cases h
    refine ⟨fun e' he => ?_, fun hok => ?_, rfl⟩
    · obtain rfl := Except.error.inj (hv.symm.trans he)
      exact ⟨rfl, rfl⟩
    · rw [hv] at hok
      cases hok
  | ok u =>
    rw [hv] at h
    have hdial := Driver.dial_journaled d timeout t
    rcases hd : d.journaled.dial timeout (t, []) with ⟨refusal, left'⟩
    rw [hd] at hdial
    simp only [Except.map, hd] at h
    cases refusal with
    | none => cases h
    | some fault' =>
      cases h
      refine ⟨fun e he => ?_, fun _ => hdial, hdial.openAfter⟩
      rw [hv] at he
      cases he

/-- **Where no client can be made, nothing is left behind**, and a configuration is valid if its
client can be made but for the transport. An invalid configuration is reported as its check reports
it, and nobody is asked for a transport. For a valid one a transport is asked for once, with the
endpoint and its timeout; if there is none that is what is reported, and if there is one nothing
else can be wrong with the configuration. Without a configuration, the first invalid policy is
reported before the driver is asked for anything, and otherwise the refusal of the driver; by then
every connection that was opened is closed. The clients in memory are made like this. -/
theorem failed_construction_leaves_nothing_behind (name : String) (draw : Nat → Binary .double)
    (own : ω) :
    (∀ {κ : Type} (c : Configuration) (open? : Endpoint → κ → Except Fault Memory.Transport × κ)
      (k : κ), Configured name draw own c open? k
        (ofConfiguration name c (noting open?) draw own (k, []))) ∧
    (∀ {δ : Type} (d : Driver δ) (t : δ) (timeout : Duration) (breaker : Breaker.Config)
      (retry : Retry.Config) (fault : Fault) (left : δ × List Driver.Call),
      construct d.journaled name (t, []) timeout breaker retry draw own = (.error fault, left) →
        Undone timeout breaker retry t fault left) ∧
    ∀ (transport : Memory.Transport) (timeout : Duration) (breaker : Breaker.Config)
      (retry : Retry.Config),
      create name transport timeout breaker retry draw own =
        match construct .memory name transport timeout breaker retry draw own with
        | (.error fault, transport) => .error (fault, transport)
        | (.ok shared, transport) => .ok { name, transport, shared } := by
  refine ⟨fun c open? k => configured_ofConfiguration name draw own c open? k, ?_, ?_⟩
  · exact fun d t timeout breaker retry fault left h => undone_of_construct h
  · exact fun transport timeout breaker retry =>
      create_eq name transport timeout breaker retry draw own

/-- A transport that opens text connections only. -/
def halfOpen : Memory.Transport := ({} : Memory.Transport).refuseBinary true

/-- The refusal is reported, and the text connection that was opened is closed again. -/
theorem undone_of_halfOpen :
    let made := construct Driver.memory.journaled "half" (halfOpen, []) (.ofSeconds 3) {} {}
      (fun _ => .zero false) ()
    made.1 = .error Memory.Transport.binaryRefused ∧ Driver.openAfter made.2.2 = [] ∧
      made.2.1.textConnection.isOpen = false := by
  intro made
  have hvalid : validatePolicies {} {} = .ok () := by
    rw [validatePolicies, (Breaker.Config.validate_ok_iff {}).mpr (by decide +kernel)]
    exact (Retry.Config.validate_ok_iff {}).mpr (by decide)
  have hmade : made = (.error Memory.Transport.binaryRefused, made.2) := by
    simp only [made, construct, policies_eq, hvalid]
    rfl
  obtain ⟨-, hundone, -⟩ :=
    failed_construction_leaves_nothing_behind "half" (fun _ => .zero false) ()
  refine ⟨congrArg Prod.fst hmade, (hundone _ _ _ _ _ _ _ hmade).closed, ?_⟩
  simp only [made, construct, policies_eq, hvalid]
  rfl

end Client

end ClusterGuard
