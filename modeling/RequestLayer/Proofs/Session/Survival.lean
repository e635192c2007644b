import RequestLayer.Proofs.Session.Transparency
import RequestLayer.Proofs.Store.History

set_option autoImplicit false

namespace RequestLayer

variable {ν : Type}

-- What happens to a store while nothing but requests writes to it, with the entries they store. Nodes
-- and clocks go on, other stores are written, clients come and go and are changed.
inductive Course (store : Nat) (first : Session ν) :
    List (Fingerprint × Json) → Session ν → Prop where
  | start : Course store first [] first
  | keeping (entries : List (Fingerprint × Json)) (session : Session ν)
      (course : Course store first entries session) (index : Nat) (member : Member ν)
      (move : Move ν) (fingerprint : Fingerprint) (value : Json)
      (named : session.members[index]? = some member)
      (keeps : Keeps session.world member move store fingerprint value) :
      Course store first (entries ++ [(fingerprint, value)]) (session.step index move).2
  | leaving (entries : List (Fingerprint × Json)) (session : Session ν)
      (course : Course store first entries session) (index : Nat) (move : Move ν)
      (nothing : ∀ member fingerprint value, session.members[index]? = some member →
        ¬ Keeps session.world member move store fingerprint value) :
      Course store first entries (session.step index move).2
  | elsewhere (entries : List (Fingerprint × Json)) (session other : Session ν)
      (course : Course store first entries session)
      (same : other.world.stores.read store = session.world.stores.read store) :
      Course store first entries other

theorem step_keeping (session : Session ν) (index : Nat) (member : Member ν) (move : Move ν)
    (store : Nat) (fingerprint : Fingerprint) (value : Json)
    (named : session.members[index]? = some member)
    (keeps : Keeps session.world member move store fingerprint value) :
    (session.step index move).2.world.stores.read store =
      ((session.world.stores.read store).insert fingerprint value).1 := by
  have changed := (kept_stores session index member move store fingerprint value named keeps).2
  exact (changed store).trans (if_pos rfl)

theorem step_leaving (session : Session ν) (index : Nat) (move : Move ν) (store : Nat)
    (nothing : ∀ member fingerprint value, session.members[index]? = some member →
      ¬ Keeps session.world member move store fingerprint value) :
    (session.step index move).2.world.stores.read store = session.world.stores.read store := by
  by_cases elsewhere : ∃ member other fingerprint value, session.members[index]? = some member ∧
      Keeps session.world member move other fingerprint value
  · obtain ⟨member, other, fingerprint, value, named, keeps⟩ := elsewhere
    have apart : store ≠ other := by
      rintro rfl
      exact nothing member fingerprint value named keeps
    have changed := (kept_stores session index member move other fingerprint value named keeps).2
    exact (changed store).trans (if_neg apart)
  · have unchanged := unkept_stores session index move
      fun member other fingerprint value named keeps =>
        elsewhere ⟨member, other, fingerprint, value, named, keeps⟩
    exact congrArg (fun stores : Slots ResponseStore => stores.read store) unchanged

theorem keeps_missed (before : World ν) (member : Member ν) (move : Move ν) (store : Nat)
    (fingerprint : Fingerprint) (value : Json)
    (keeps : Keeps before member move store fingerprint value) :
    (before.stores.read store).get? fingerprint = none := by
  cases keeps with
  | request context call store reply result later installed listed missed => exact missed

structure Queued (capacity : Option Capacity) (responses : ResponseStore) : Prop where
  matched : responses.Matched
  fits : responses.Fits
  capacity : responses.capacity = capacity

theorem insert_queued (capacity : Option Capacity) (responses : ResponseStore)
    (fingerprint : Fingerprint) (value : Json) (queued : Queued capacity responses) :
    Queued capacity (responses.insert fingerprint value).1 where
  matched := responses.insert_matched fingerprint value queued.matched
  fits := responses.insert_fits fingerprint value queued.fits
  capacity := (responses.insert_capacity fingerprint value).trans queued.capacity

theorem course_queued (capacity : Option Capacity) (store : Nat) (first session : Session ν)
    (entries : List (Fingerprint × Json)) (course : Course store first entries session)
    (queued : Queued capacity (first.world.stores.read store)) :
    Queued capacity (session.world.stores.read store) := by
  induction course with
  | start => exact queued
  | keeping entries session _ index member move fingerprint value named keeps ih =>
      rw [step_keeping session index member move store fingerprint value named keeps]
      exact insert_queued capacity _ fingerprint value ih
  | leaving entries session _ index move nothing ih =>
      rw [step_leaving session index move store nothing]
      exact ih
  | elsewhere entries session other _ same ih =>
      rw [same]
      exact ih

theorem missing_absent (responses : ResponseStore) (fingerprint : Fingerprint)
    (missed : responses.get? fingerprint = none) : ¬ responses.contains fingerprint := by
  rw [Store.contains, missed]
  decide

theorem insert_last (capacity : Option Capacity) (responses : ResponseStore)
    (fingerprint : Fingerprint) (value : Json) (queued : Queued capacity responses)
    (missed : responses.get? fingerprint = none) :
    ∃ dropped kept, responses.items = dropped ++ kept ∧
      (responses.insert fingerprint value).1.items = kept ++ [(fingerprint, value)] ∧
      dropped.length = if responses.isFull then 1 else 0 := by
  have absent := missing_absent responses fingerprint missed
  by_cases full : responses.isFull
  · obtain ⟨oldest, rest, items, _, left⟩ := responses.insert_new_full fingerprint value
      queued.matched queued.fits absent full
    exact ⟨[oldest], rest, items, left, by rw [if_pos full]; rfl⟩
  · obtain ⟨_, left⟩ := responses.insert_new_room fingerprint value queued.matched queued.fits
      absent full
    exact ⟨[], responses.items, rfl, left, by rw [if_neg full]; rfl⟩

theorem full_size (limit : Capacity) (responses : ResponseStore)
    (queued : Queued (some limit) responses) :
    responses.items.length ≤ limit.size ∧
      (responses.isFull = true ↔ limit.size ≤ responses.items.length) := by
  rw [responses.items_length queued.matched]
  constructor
  · rw [responses.size_eq_order queued.matched]
    exact queued.fits limit queued.capacity
  · simp [Store.isFull, queued.capacity]

theorem insert_later (capacity : Option Capacity) (responses : ResponseStore)
    (front later : List (Fingerprint × Json)) (entry : Fingerprint × Json)
    (fingerprint : Fingerprint) (value : Json) (queued : Queued capacity responses)
    (missed : responses.get? fingerprint = none)
    (items : responses.items = front ++ entry :: later)
    (few : ∀ limit ∈ capacity, later.length + 1 < limit.size) :
    ∃ rest, (responses.insert fingerprint value).1.items =
      rest ++ entry :: (later ++ [(fingerprint, value)]) := by
  obtain ⟨dropped, kept, split, left, count⟩ :=
    insert_last capacity responses fingerprint value queued missed
  have short : dropped.length ≤ front.length := by
    rw [count]
    by_cases full : responses.isFull
    · rw [if_pos full]
      cases capacity with
      | none => simp [Store.isFull, queued.capacity] at full
      | some limit =>
          have size := (full_size limit responses queued).2.mp full
          have bound := few limit rfl
          rw [items, List.length_append, List.length_cons] at size
          omega
    · rw [if_neg full]
      exact Nat.zero_le _
  have tail : kept = front.drop dropped.length ++ entry :: later := by
    have cut := congrArg (List.drop dropped.length) (split.symm.trans items)
    rw [List.drop_left, List.drop_append_of_le_length short] at cut
    exact cut
  refine ⟨front.drop dropped.length, ?_⟩
  rw [left, tail, List.append_assoc, List.cons_append]

theorem insert_drops (limit : Capacity) (responses : ResponseStore)
    (front later : List (Fingerprint × Json)) (entry : Fingerprint × Json)
    (fingerprint : Fingerprint) (value : Json) (queued : Queued (some limit) responses)
    (missed : responses.get? fingerprint = none)
    (items : responses.items = front ++ entry :: later) (many : later.length + 1 = limit.size) :
    responses.items = entry :: later ∧
      (responses.insert fingerprint value).1.items = later ++ [(fingerprint, value)] := by
  have size := full_size limit responses queued
  rw [items, List.length_append, List.length_cons] at size
  have alone : front = [] := List.length_eq_zero_iff.mp (by omega)
  subst alone
  obtain ⟨dropped, kept, split, left, count⟩ :=
    insert_last (some limit) responses fingerprint value queued missed
  rw [if_pos (size.2.mpr (by simp only [List.length_nil]; omega))] at count
  obtain ⟨oldest, rfl⟩ := List.length_eq_one_iff.mp count
  have same : later = kept := (List.cons.inj (items.symm.trans split)).2
  subst same
  exact ⟨items, left⟩

theorem course_later (capacity : Option Capacity) (store : Nat) (first session : Session ν)
    (front entries : List (Fingerprint × Json)) (entry : Fingerprint × Json)
    (course : Course store first entries session)
    (queued : Queued capacity (first.world.stores.read store))
    (last : (first.world.stores.read store).items = front ++ [entry])
    (few : ∀ limit ∈ capacity, entries.length < limit.size) :
    ∃ rest, (session.world.stores.read store).items = rest ++ entry :: entries := by
  induction course with
  | start => exact ⟨front, last⟩
  | keeping entries session course index member move fingerprint value named keeps ih =>
      have fewer : ∀ limit ∈ capacity, entries.length + 1 < limit.size := by
        intro limit bounded
        have bound := few limit bounded
        rw [List.length_append] at bound
        exact bound
      obtain ⟨rest, items⟩ := ih fun limit bounded => Nat.lt_of_succ_lt (fewer limit bounded)
      rw [step_keeping session index member move store fingerprint value named keeps]
      exact insert_later capacity _ rest entries entry fingerprint value
        (course_queued capacity store first session entries course queued)
        (keeps_missed _ _ _ _ _ _ keeps) items fewer
  | leaving entries session _ index move nothing ih =>
      rw [step_leaving session index move store nothing]
      exact ih few
  | elsewhere entries session other _ same ih =>
      rw [same]
      exact ih few

theorem course_missing (store : Nat) (first session : Session ν)
    (entries : List (Fingerprint × Json)) (fingerprint : Fingerprint)
    (course : Course store first entries session)
    (missed : (first.world.stores.read store).get? fingerprint = none)
    (others : fingerprint ∉ entries.map Prod.fst) :
    (session.world.stores.read store).get? fingerprint = none := by
  induction course with
  | start => exact missed
  | keeping entries session _ index member move other value named keeps ih =>
      rw [List.map_append, List.mem_append, not_or] at others
      have before := ih others.1
      rw [step_keeping session index member move store other value named keeps]
      cases found : ((session.world.stores.read store).insert other value).1.get? fingerprint with
      | none => rfl
      | some response =>
          rcases Store.get_insert _ _ _ _ _ found with ⟨same, _⟩ | ⟨_, held⟩
          · exact absurd (List.mem_singleton.mpr same) others.2
          · rw [before] at held
            cases held
  | leaving entries session _ index move nothing ih =>
      rw [step_leaving session index move store nothing]
      exact ih others
  | elsewhere entries session other _ same ih =>
      rw [same]
      exact ih others

def reading {α : Type} (read : World ν → α) : ExceptT Fault (Routine (World ν)) α :=
  ExceptT.mk (.step id fun world => .done (.ok (read world)))

theorem reading_then {α β : Type} (read : World ν → α)
    (next : α → ExceptT Fault (Routine (World ν)) β) (pauses : Nat) (world : World ν) :
    (reading read >>= next).run.runUntil pauses world =
      (next (read world)).run.runUntil pauses world := rfl

theorem caching_reading (member : Member ν) :
    (member.client.caching : ExceptT Fault (Routine (World ν)) Caching) =
      reading fun world => world.caching member := rfl

theorem find_reading (caching : Caching) (store : Nat) (kept : caching.store = some store)
    (fingerprint : Fingerprint) :
    (caching.find? (ν := ν) fingerprint : ExceptT Fault (Routine (World ν)) (Option Json)) =
      reading fun world => (world.stores.read store).get? fingerprint := by
  unfold Caching.find?
  rw [kept]
  rfl

-- A request whose response is stored comes to no point where it could be set aside, so it runs no hook
-- and sends no call.
theorem request_found_at_once (member : Member ν) (context : Context) (call : Call)
    (world : World ν) (store : Nat) (installed : (world.caching member).store = some store)
    (listed : (world.caching member).rule.isCacheable call.method) (response : Json)
    (found : (world.stores.read store).get? (.ofCall context call.method call.params) =
      some response) :
    (member.client.request member.node context call :
      ExceptT Fault (Routine (World ν)) Json).run.runUntil 0 world = (some (.ok response), world) := by
  have looked := member.looks_up context call world store installed listed
  rw [Client.request_eq, caching_reading, reading_then, looked]
  dsimp only
  rw [find_reading _ store installed, reading_then, found]
  rfl

structure Uses (world : World ν) (member : Member ν) (store : Nat) (call : Call) : Prop where
  installed : (world.caching member).store = some store
  listed : (world.caching member).rule.isCacheable call.method

theorem dropped_missing (capacity : Option Capacity) (responses after : ResponseStore)
    (fingerprint other : Fingerprint) (value response : Json) (later : List (Fingerprint × Json))
    (queued : Queued capacity responses) (queuedAfter : Queued capacity after)
    (items : responses.items = (fingerprint, value) :: later)
    (left : after.items = later ++ [(other, response)])
    (missed : responses.get? other = none) : after.get? fingerprint = none := by
  have held : responses.get? fingerprint = some value :=
    responses.mem_items _ _ (items ▸ List.mem_cons_self)
  have different : fingerprint ≠ other := by
    rintro rfl
    rw [held] at missed
    cases missed
  have distinct := queued.matched.distinct
  rw [← responses.items_keys queued.matched, items, List.map_cons, List.nodup_cons] at distinct
  have gone : ¬ after.contains fingerprint := by
    rw [Store.contains_iff_items _ _ queuedAfter.matched, left, List.map_append, List.mem_append]
    rintro (member | member)
    · exact distinct.1 member
    · exact different (List.mem_singleton.mp member)
  exact Option.not_isSome_iff_eq_none.mp gone

theorem stored_response_survives (capacity : Option Capacity)
    (operations : List (Store.Operation Fingerprint Json)) (store : Nat)
    (first before now : Session ν) (earlier later : List (Fingerprint × Json)) (index : Nat)
    (member : Member ν) (context : Context) (call : Call) (value : Json)
    (start : first.world.stores.read store = ((Store.empty capacity).run operations).1)
    (reached : Course store first earlier before)
    (named : before.members[index]? = some member)
    (keeps : Keeps before.world member (.act (.request context call)) store
      (.ofCall context call.method call.params) value)
    (went : Course store (before.step index (.act (.request context call))).2 later now) :
    let fingerprint := Fingerprint.ofCall context call.method call.params
    ((∀ limit ∈ capacity, later.length < limit.size) →
      ∀ asker : Member ν, Uses now.world asker store call →
        asker.request context call now.world = (.ok value, now.world) ∧
        (asker.client.request asker.node context call :
          ExceptT Fault (Routine (World ν)) Json).run.runUntil 0 now.world =
            (some (.ok value), now.world)) ∧
    (∀ entries session, Course store first entries session →
      ∀ mover writer move other response, session.members[mover]? = some writer →
        Keeps session.world writer move store other response →
          (session.world.stores.read store).get? other = none ∧
          ∃ dropped kept, (session.world.stores.read store).items = dropped ++ kept ∧
            ((session.step mover move).2.world.stores.read store).items =
              kept ++ [(other, response)]) ∧
    ∀ limit ∈ capacity, later.length + 1 = limit.size →
      ∀ mover writer move other response, now.members[mover]? = some writer →
        Keeps now.world writer move store other response →
          (now.world.stores.read store).items = (fingerprint, value) :: later ∧
          ((now.step mover move).2.world.stores.read store).items = later ++ [(other, response)] ∧
          ∀ others last, Course store (now.step mover move).2 others last →
            fingerprint ∉ others.map Prod.fst →
              (last.world.stores.read store).get? fingerprint = none ∧
              ∀ asker : Member ν, Uses last.world asker store call →
                asker.request context call last.world =
                  asker.finished store fingerprint call (asker.resolved call last.world) := by
  intro fingerprint
  have fresh : Queued capacity (first.world.stores.read store) := by
    rw [start]
    exact ⟨Store.run_matched _ operations (Store.empty_matched capacity),
      Store.run_fits _ operations (Store.empty_fits capacity),
      Store.run_capacity (Store.empty capacity) operations⟩
  have queued := course_queued capacity store first before earlier reached fresh
  have missed := keeps_missed _ _ _ _ _ _ keeps
  have stepped := step_keeping before index member _ store fingerprint value named keeps
  have queuedAfter := insert_queued capacity _ fingerprint value queued
  obtain ⟨_, front, _, last, _⟩ := insert_last capacity _ fingerprint value queued missed
  rw [← stepped] at queuedAfter last
  have queuedNow := course_queued capacity store _ now later went queuedAfter
  have waiting := course_later capacity store _ now front later (fingerprint, value) went
    queuedAfter last
  refine ⟨?_, ?_, ?_⟩
  · intro few asker uses
    obtain ⟨rest, items⟩ := waiting few
    have held : (now.world.stores.read store).get? fingerprint = some value :=
      Store.mem_items _ _ _ (items ▸ List.mem_append_right rest List.mem_cons_self)
    exact ⟨asker.request_found context call now.world store uses.installed uses.listed value held,
      request_found_at_once asker context call now.world store uses.installed uses.listed value held⟩
  · intro entries session course mover writer move other response found storing
    have absent := keeps_missed _ _ _ _ _ _ storing
    obtain ⟨dropped, kept, items, left, _⟩ := insert_last capacity _ other response
      (course_queued capacity store first session entries course fresh) absent
    rw [step_keeping session mover writer move store other response found storing]
    exact ⟨absent, dropped, kept, items, left⟩
  · rintro limit ⟨rfl⟩ many mover writer move other response found storing
    have absent := keeps_missed _ _ _ _ _ _ storing
    obtain ⟨rest, items⟩ := waiting fun bound same => by
      cases same
      omega
    obtain ⟨whole, left⟩ := insert_drops limit _ rest later (fingerprint, value) other response
      queuedNow absent items many
    have next := insert_queued _ _ other response queuedNow
    rw [← step_keeping now mover writer move store other response found storing] at left next
    have gone := dropped_missing _ _ _ fingerprint other value response later queuedNow next whole
      left absent
    refine ⟨whole, left, fun others later course apart => ?_⟩
    have missing := course_missing store _ later others fingerprint course gone apart
    exact ⟨missing, fun asker uses =>
      asker.request_missed context call later.world store uses.installed uses.listed missing⟩

theorem registered_cacheable (store : Nat) (threshold : Option Freshness.Threshold)
    (method : String) (registered : method ∈ Freshness.registry) :
    (Caching.enabled store threshold).rule.isCacheable method = true := by
  have member : method ∈ NameSet.ofList Freshness.registry := by
    rw [NameSet.mem_ofList]
    exact registered
  exact List.contains_iff_mem.mpr member

theorem chain_id_listed : (Caching.enabled 0 none).rule.isCacheable "eth_chainId" = true :=
  registered_cacheable 0 none "eth_chainId" (by decide)

theorem counted_keeps (mode : Mode) (id : String) (world : World Nat)
    (caching : world.caching (counted mode) = .enabled 0 none)
    (missed : (world.stores.read 0).get? (.ofCall (.caller id) "eth_chainId" []) = none) :
    Keeps world (counted mode) (.act (.request (.caller id) ⟨"eth_chainId", []⟩)) 0
      (.ofCall (.caller id) "eth_chainId" []) "eth_chainId" := by
  have listed := chain_id_listed
  have passed : (counted mode).passed ⟨"eth_chainId", []⟩ world =
      (.ok (.success "eth_chainId"), { world with outside := world.outside + 2 }) := by
    cases mode <;> rfl
  have later : World.caching { world with outside := world.outside + 2 } (counted mode) =
      .enabled 0 none := caching
  have allowed : ((counted mode).allows (Caching.enabled 0 none).rule ⟨"eth_chainId", []⟩
      "eth_chainId" { world with outside := world.outside + 2 }).1 = true := by
    cases mode <;> rfl
  exact Keeps.request (.caller id) ⟨"eth_chainId", []⟩ 0 (.success "eth_chainId") "eth_chainId"
    { world with outside := world.outside + 2 } (by rw [caching]; rfl) (by rw [caching]; exact listed)
    missed passed rfl rfl nofun (by rw [later]; exact listed) (by rw [later]; exact allowed)

theorem acted_members (session : Session ν) (index : Nat) (action : Action) :
    (session.step index (.act action)).2.members = session.members := by
  unfold Session.step
  cases session.members[index]? <;> rfl

theorem keeping_caching (session : Session ν) (index : Nat) (member asker : Member ν)
    (move : Move ν) (store : Nat) (fingerprint : Fingerprint) (value : Json)
    (named : session.members[index]? = some member)
    (keeps : Keeps session.world member move store fingerprint value) :
    (session.step index move).2.world.caching asker = session.world.caching asker := by
  obtain ⟨judged, untouched, moved⟩ :=
    keeps_moved session index member move store fingerprint value keeps
  unfold Session.step World.caching
  rw [named]
  dsimp only
  rw [moved]
  exact congrArg (fun clients : Slots ClientState => (clients.read asker.client.id).caching)
    untouched.clients

-- A suspendable and a blocking client on one store, which holds one response.
def twoAskers : Session Nat :=
  ⟨countedWorld (.enabled 0 none), [counted .suspendable, counted .blocking]⟩

def asking (id : String) : Action := .request (.caller id) ⟨"eth_chainId", []⟩

def askedOnce : Session Nat := (twoAskers.step 0 (.act (asking "a"))).2

theorem asked_once_keeps : Keeps twoAskers.world (counted .suspendable) (.act (asking "a")) 0
    (.ofCall (.caller "a") "eth_chainId" []) "eth_chainId" :=
  counted_keeps .suspendable "a" twoAskers.world rfl rfl

theorem asked_once_caching : askedOnce.world.caching (counted .blocking) = .enabled 0 none := by
  rw [askedOnce, keeping_caching twoAskers 0 (counted .suspendable) (counted .blocking)
    (.act (asking "a")) 0 (.ofCall (.caller "a") "eth_chainId" []) "eth_chainId" rfl asked_once_keeps]
  rfl

theorem asked_once_missed :
    (askedOnce.world.stores.read 0).get? (.ofCall (.caller "b") "eth_chainId" []) = none := by
  have left := step_keeping twoAskers 0 (counted .suspendable) (.act (asking "a")) 0
    (.ofCall (.caller "a") "eth_chainId" []) "eth_chainId" rfl asked_once_keeps
  rw [askedOnce, left]
  cases found : ((twoAskers.world.stores.read 0).insert
      (.ofCall (.caller "a") "eth_chainId" []) "eth_chainId").1.get?
        (.ofCall (.caller "b") "eth_chainId" []) with
  | none => rfl
  | some response =>
      rcases Store.get_insert _ _ _ _ _ found with ⟨same, _⟩ | ⟨_, held⟩
      · exact absurd same.symm two_callers_differ
      · cases held

theorem asked_once_members : askedOnce.members[1]? = some (counted .blocking) := by
  rw [askedOnce, acted_members]
  rfl

theorem asked_twice_keeps : Keeps askedOnce.world (counted .blocking) (.act (asking "b")) 0
    (.ofCall (.caller "b") "eth_chainId" []) "eth_chainId" :=
  counted_keeps .blocking "b" askedOnce.world asked_once_caching asked_once_missed

theorem asked_twice_caching :
    (askedOnce.step 1 (.act (asking "b"))).2.world.caching (counted .blocking) = .enabled 0 none := by
  rw [keeping_caching askedOnce 1 (counted .blocking) (counted .blocking) (.act (asking "b")) 0
    (.ofCall (.caller "b") "eth_chainId" []) "eth_chainId" asked_once_members asked_twice_keeps]
  exact asked_once_caching

theorem stored_response_survives_one_place :
    let askedTwice := (askedOnce.step 1 (.act (asking "b"))).2
    (counted .blocking).request (.caller "a") ⟨"eth_chainId", []⟩ askedOnce.world =
        (.ok "eth_chainId", askedOnce.world) ∧
      (askedTwice.world.stores.read 0).items =
        [(Fingerprint.ofCall (.caller "b") "eth_chainId" [], Json.string "eth_chainId")] ∧
      (counted .blocking).request (.caller "a") ⟨"eth_chainId", []⟩ askedTwice.world =
        (counted .blocking).finished 0 (.ofCall (.caller "a") "eth_chainId" []) ⟨"eth_chainId", []⟩
          ((counted .blocking).resolved ⟨"eth_chainId", []⟩ askedTwice.world) := by
  have survives := stored_response_survives (some ⟨1, Nat.one_pos⟩) [] 0 twoAskers twoAskers askedOnce
    [] [] 0 (counted .suspendable) (.caller "a") ⟨"eth_chainId", []⟩ "eth_chainId" rfl .start rfl
    asked_once_keeps .start
  have few : ∀ limit ∈ some (Capacity.mk 1 Nat.one_pos), 0 < limit.size :=
    fun limit _ => limit.positive
  have uses : Uses askedOnce.world (counted .blocking) 0 ⟨"eth_chainId", []⟩ :=
    ⟨by rw [asked_once_caching]; rfl, by rw [asked_once_caching]; exact chain_id_listed⟩
  have usesLater : Uses (askedOnce.step 1 (.act (asking "b"))).2.world (counted .blocking) 0
      ⟨"eth_chainId", []⟩ :=
    ⟨by rw [asked_twice_caching]; rfl, by rw [asked_twice_caching]; exact chain_id_listed⟩
  have found := (survives.1 few (counted .blocking) uses).1
  obtain ⟨_, left, gone⟩ := survives.2.2 ⟨1, Nat.one_pos⟩ rfl rfl 1 (counted .blocking)
    (.act (asking "b")) (.ofCall (.caller "b") "eth_chainId" []) "eth_chainId" asked_once_members
    asked_twice_keeps
  rw [List.nil_append] at left
  have lost := (gone [] _ .start List.not_mem_nil).2 (counted .blocking) usesLater
  exact ⟨found, left, lost⟩

end RequestLayer
