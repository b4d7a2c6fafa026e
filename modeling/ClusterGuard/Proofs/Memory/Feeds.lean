import ClusterGuard.Memory.Hub

/-!
# What the operations of a hub do to one feed

A feed is known by its number. What it holds depends on what is emitted, on its own reader and on
the end of the hub, and on no other feed.

Results:
* `feed?_emit`, `feed?_openFeed`, `feed?_takeAll`, `feed?_dropFeed`, `feed?_close`: the feed of a
  number after each operation.
* `isOver_of_some`, `held_of_some`: how a feed looks to its reader.
* **`feed_act`**, `Spares.feed`: what a reader can count on while others use the hub.
* `numbered_act`: the numbers of feeds to come are free.
-/

namespace ClusterGuard.Memory

/-- What is done with a hub. A stream is named by its number. -/
inductive Hub.Op where
  | events
  | subscribe (channel : String)
  | publish (channel text : String)
  | changeTopology
  | close
  /-- The reader of a stream takes what there is. -/
  | read (n : Nat)
  | drop (n : Nat)

/-- The hub after one thing was done with it. -/
def Hub.act (op : Hub.Op) (h : Hub) : Hub :=
  match op with
  | .events => h.openFeed.2
  | .subscribe channel => (h.subscribe channel).2
  | .publish channel text => h.publish channel text
  | .changeTopology => h.changeTopology
  | .close => h.close
  | .read n => (h.takeAll n).2
  | .drop n => h.dropFeed n

theorem Feed.queue_push (e : Event) (f : Feed) :
    (f.push e).queue = f.queue ++ if f.attached then [e] else [] := by
  unfold push
  cases f.attached <;> simp

theorem Feed.attached_push (e : Event) (f : Feed) : (f.push e).attached = f.attached := by
  unfold push
  split <;> rfl

theorem Feed.number_push (e : Event) (f : Feed) : (f.push e).number = f.number := by
  unfold push
  split <;> rfl

namespace Hub

variable {h : Hub} {n : Nat}

/-! ## One feed after another operation -/

@[simp] theorem feed?_emit (e : Event) (h : Hub) (n : Nat) :
    (h.emit e).feed? n = (h.feed? n).map (·.push e) := by
  simp only [emit, feed?, List.find?_map, Function.comp_def, Feed.number_push]

@[simp] theorem feed?_openFeed (h : Hub) (n : Nat) :
    h.openFeed.2.feed? n = (h.feed? n).or
      (if h.opened = n then some { number := h.opened, attached := h.isOpen } else none) := by
  simp [openFeed, feed?, List.find?_append, List.find?_singleton]

@[simp] theorem feed?_takeAll (h : Hub) (m n : Nat) :
    (h.takeAll m).2.feed? n
      = (h.feed? n).map fun f => if n = m then { f with queue := [] } else f := by
  have hnumber (f : Feed) :
      (if f.number == m then { f with queue := [] } else f).number = f.number := by
    split <;> rfl
  simp only [takeAll, feed?, List.find?_map, Function.comp_def, hnumber]
  cases hf : h.feeds.find? (·.number == n) with
  | none => rfl
  | some f =>
    obtain rfl : f.number = n := by simpa using List.find?_some hf
    simp

@[simp] theorem feed?_dropFeed (h : Hub) (m n : Nat) :
    (h.dropFeed m).feed? n = if n = m then none else h.feed? n := by
  simp only [dropFeed, feed?, List.find?_filter]
  split
  · rename_i heq
    subst heq
    simp
  · rename_i hne
    congr 1
    funext f
    by_cases hf : f.number = n
    · simp [hf, hne]
    · simp [hf]

@[simp] theorem feed?_close (h : Hub) (n : Nat) :
    h.close.feed? n = (h.feed? n).map fun f => { f with attached := false } := by
  simp only [close, feed?, List.find?_map, Function.comp_def]

@[simp] theorem feed?_changeTopology (h : Hub) (n : Nat) :
    h.changeTopology.feed? n = (h.feed? n).map (·.push .topologyChanged) :=
  feed?_emit _ { h with subscriptions := [] } n

@[simp] theorem feed?_publish (channel text : String) (h : Hub) (n : Nat) :
    (h.publish channel text).feed? n = (h.feed? n).map (·.push (.message channel text)) :=
  feed?_emit ..

/-- A subscription that is made is heard of. -/
theorem subscribe_of_open (ho : h.isOpen = true) (channel : String) :
    h.subscribe channel = (.ok (), { h with subscriptions := h.subscriptions ++ [channel] }.emit
      (.subscribed channel (h.subscriptions ++ [channel]).length)) := by
  simp only [subscribe, ho, if_true]

/-! ## One feed as its reader sees it -/

/-- What a reader of a feed could take. -/
def held (n : Nat) (h : Hub) : List Event := ((h.feed? n).map (·.queue)).getD []

theorem takeAll_fst (h : Hub) (n : Nat) : (h.takeAll n).1 = h.held n := rfl

theorem held_of_some {f : Feed} (hf : h.feed? n = some f) : h.held n = f.queue := by
  simp [held, hf]

theorem held_of_none (hf : h.feed? n = none) : h.held n = [] := by
  simp [held, hf]

theorem isOver_of_some {f : Feed} (hf : h.feed? n = some f) :
    h.isOver n = true ↔ f.attached = false ∧ f.queue = [] := by
  simp [isOver, hf, Feed.isOver]

/-! ## Two users of a hub -/

/-- Whether a hub is used without reading or dropping a stream. -/
def Spares (n : Nat) (h h' : Hub) : Prop :=
  ∃ ops : List Op, (∀ op ∈ ops, op ≠ .read n ∧ op ≠ .drop n) ∧
    h' = ops.foldl (fun h op => h.act op) h

variable {h' h'' : Hub} {op : Op}

theorem Spares.refl (n : Nat) (h : Hub) : Spares n h h := ⟨[], nofun, rfl⟩

theorem Spares.act (hop : op ≠ .read n ∧ op ≠ .drop n) (h : Hub) : Spares n h (h.act op) :=
  ⟨[op], fun _ hmem => List.mem_singleton.mp hmem ▸ hop, rfl⟩

theorem Spares.trans (hs : Spares n h h') (hs' : Spares n h' h'') : Spares n h h'' := by
  obtain ⟨ops, hops, rfl⟩ := hs
  obtain ⟨ops', hops', rfl⟩ := hs'
  refine ⟨ops ++ ops', fun op hop => ?_, List.foldl_append.symm⟩
  exact (List.mem_append.mp hop).elim (hops op) (hops' op)

/-- The events that one thing done with a hub makes. -/
def Op.emits (op : Op) (h : Hub) : List Event :=
  match op with
  | .subscribe channel =>
    if h.isOpen then [.subscribed channel (h.subscriptions ++ [channel]).length] else []
  | .publish channel text => [.message channel text]
  | .changeTopology => [.topologyChanged]
  | .events | .close | .read _ | .drop _ => []

/-- What becomes of a feed that is neither read nor dropped: it is given the events that are made,
as long as it is attached. -/
structure Heard (op : Op) (h : Hub) (f f' : Feed) : Prop where
  queue : f'.queue = f.queue ++ if f.attached then op.emits h else []
  attached : f.attached = h.isOpen → f'.attached = (h.act op).isOpen
  ended : f.attached = false → f' = f

theorem heard_push (e : Event) {f : Feed} (he : op.emits h = [e])
    (ho : (h.act op).isOpen = h.isOpen) : Heard op h f (f.push e) := by
  refine ⟨?_, fun hf => ?_, fun hf => ?_⟩
  · rw [f.queue_push, he]
  · rw [f.attached_push, hf, ho]
  · simp [Feed.push, hf]

/-- A feed of which nothing is heard stays as it is. -/
theorem heard_same {f : Feed} (he : op.emits h = []) (ho : (h.act op).isOpen = h.isOpen) :
    Heard op h f f :=
  ⟨by simp [he], fun hf => hf.trans ho.symm, fun _ => rfl⟩

theorem feed_act {f : Feed} (hop : op ≠ .read n ∧ op ≠ .drop n) (hf : h.feed? n = some f) :
    ∃ f', (h.act op).feed? n = some f' ∧ Heard op h f f' := by
  cases op with
  | events => exact ⟨f, by simp [act, hf], heard_same rfl rfl⟩
  | publish channel text =>
    exact ⟨f.push (.message channel text), by simp [act, hf], heard_push _ rfl rfl⟩
  | changeTopology => exact ⟨f.push .topologyChanged, by simp [act, hf], heard_push _ rfl rfl⟩
  | subscribe channel =>
    cases ho : h.isOpen with
    | false =>
      refine ⟨f, ?_, heard_same ?_ ?_⟩
      · simp [act, subscribe_of_closed ho, hf]
      · simp [Op.emits, ho]
      · simp only [act, subscribe_of_closed ho]
    | true =>
      refine ⟨f.push (.subscribed channel (h.subscriptions ++ [channel]).length), ?_,
        heard_push _ ?_ ?_⟩
      · simp only [act, subscribe_of_open ho]
        exact (feed?_emit _ { h with subscriptions := _ } n).trans (congrArg _ hf)
      · simp only [Op.emits, ho, if_true]
      · simp only [act, subscribe_of_open ho]
        rfl
  | close =>
    refine ⟨{ f with attached := false }, by simp [act, hf], by simp [Op.emits], fun _ => rfl,
      fun hended => ?_⟩
    rw [← hended]
  | read m =>
    have hm : n ≠ m := fun hm => hop.1 (hm ▸ rfl)
    exact ⟨f, by simp [act, hf, hm], heard_same rfl rfl⟩
  | drop m =>
    have hm : n ≠ m := fun hm => hop.2 (hm ▸ rfl)
    exact ⟨f, by simp [act, hf, hm], heard_same rfl rfl⟩

/-- **A feed that is spared** loses nothing, and gets nothing more once it has ended. -/
theorem Spares.feed {f : Feed} (hs : Spares n h h') (hf : h.feed? n = some f) :
    ∃ f', h'.feed? n = some f' ∧ f.queue <+: f'.queue ∧
      (f.attached = h.isOpen → f'.attached = h'.isOpen) ∧ (f.attached = false → f' = f) := by
  obtain ⟨ops, hops, rfl⟩ := hs
  induction ops generalizing h f with
  | nil => exact ⟨f, hf, List.prefix_rfl, id, fun _ => rfl⟩
  | cons op ops ih =>
    obtain ⟨f', hf', hheard⟩ := feed_act (hops op List.mem_cons_self) hf
    obtain ⟨f'', hf'', hqueue, hattached, hended⟩ :=
      ih hf' fun op hop => hops op (List.mem_cons_of_mem _ hop)
    refine ⟨f'', hf'', ?_, fun h => hattached (hheard.attached h), fun h => ?_⟩
    · rw [hheard.queue] at hqueue
      exact (List.prefix_append ..).trans hqueue
    · obtain rfl := hheard.ended h
      exact hended h

/-- Whether the numbers of the feeds to come are free. -/
def Numbered (h : Hub) : Prop := ∀ n, h.opened ≤ n → h.feed? n = none

theorem numbered_act (hn : h.Numbered) (op : Op) : (h.act op).Numbered := by
  intro n hle
  cases op with
  | events =>
    have hlt : h.opened < n := hle
    simp [act, hn n (Nat.le_of_lt hlt), Nat.ne_of_lt hlt]
  | subscribe channel =>
    cases ho : h.isOpen with
    | false =>
      simp only [act, subscribe_of_closed ho] at hle ⊢
      exact hn n hle
    | true =>
      simp only [act, subscribe_of_open ho] at hle ⊢
      exact (feed?_emit _ { h with subscriptions := _ } n).trans (congrArg _ (hn n hle))
  | publish channel text => simp [act, hn n hle]
  | changeTopology => simp [act, hn n hle]
  | close => simp [act, hn n hle]
  | read m => simp [act, hn n hle]
  | drop m => simp [act, hn n hle]

end Hub

end ClusterGuard.Memory
