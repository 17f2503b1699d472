/-
  TfScale.Control.AuthKeys

  How many devices does a one-time auth key admit?

  `register_device` checks the key in one query and marks it used in a later
  transaction.  A registration that was checked before another one used the key
  goes through after it, unless a uniqueness constraint stops it: the two addresses
  are the same only if both were allocated before either insert.
  `one_device_per_key_iff` says that this is the only way: a key admits one device
  in every state of a run exactly when no insert goes through on a used key.
-/

import TfScale.Lib.Run
import TfScale.Control.Requests

namespace TfScale.Control

open ControlState

variable {S : Server} {db db' : Db} {clock : Nat → Timestamp} {fresh : Fresh} {p p' : Process}

-- ============================================================================
-- The table of keys
-- ============================================================================

/-- Two rows of one key are one row. -/
theorem authKey_unique {k k' : AuthKeyRow} (hk : k ∈ db.authKeys.rows) (hk' : k' ∈ db.authKeys.rows)
    (h : k.keyHash = k'.keyHash) : k = k' := by
  refine Table.eq_of_clash hk hk' ?_
  show (k.id == k'.id || k.keyHash == k'.keyHash) = true
  rw [h, beq_self_eq_true, Bool.or_true]

theorem authKey_eq_some {keyHash : String} {key : AuthKeyRow} :
    db.authKey keyHash = some key ↔ key ∈ db.authKeys.rows ∧ key.keyHash = keyHash := by
  refine ⟨fun h => ?_, fun ⟨hmem, hhash⟩ => ?_⟩
  · exact ⟨List.mem_of_find?_eq_some h, by simpa using List.find?_some h⟩
  · have hsome : (db.authKey keyHash).isSome := by
      rw [Db.authKey, List.find?_isSome]
      exact ⟨key, hmem, by simpa using hhash⟩
    obtain ⟨key', hkey'⟩ := Option.isSome_iff_exists.mp hsome
    have hmem' := List.mem_of_find?_eq_some hkey'
    have hhash' : key'.keyHash = keyHash := by simpa using List.find?_some hkey'
    rw [hkey', authKey_unique hmem' hmem (hhash'.trans hhash.symm)]

/-- The keys after the key `keyHash` was consumed at `now`. -/
def consumed (now : Timestamp) (keyHash : String) (key : AuthKeyRow) : AuthKeyRow :=
  if key.keyHash == keyHash then { key with usedAt := some (key.usedAt.getD now) } else key

@[simp] theorem consumed_keyHash (now : Timestamp) (keyHash : String) (key : AuthKeyRow) :
    (consumed now keyHash key).keyHash = key.keyHash := by
  unfold consumed
  split <;> rfl

@[simp] theorem consumed_reusable (now : Timestamp) (keyHash : String) (key : AuthKeyRow) :
    (consumed now keyHash key).reusable = key.reusable := by
  unfold consumed
  split <;> rfl

theorem consumed_self {now : Timestamp} {keyHash : String} {key : AuthKeyRow}
    (h : key.keyHash = keyHash) : (consumed now keyHash key).usedAt.isSome = true := by
  rw [consumed, if_pos (beq_iff_eq.mpr h)]
  rfl

theorem consumed_of_ne {now : Timestamp} {keyHash : String} {key : AuthKeyRow}
    (h : key.keyHash ≠ keyHash) : consumed now keyHash key = key := by
  rw [consumed, if_neg fun heq => h (beq_iff_eq.mp heq)]

theorem consumed_used {now : Timestamp} {keyHash : String} {key : AuthKeyRow}
    (h : key.usedAt.isSome = true) : (consumed now keyHash key).usedAt.isSome = true := by
  by_cases hk : key.keyHash = keyHash
  · exact consumed_self hk
  · rwa [consumed_of_ne hk]

/-- What a transaction does to the keys: create one, mark one used, or nothing. -/
theorem Commit.authKeys (h : Commit S clock fresh db p db') :
    (p = .createAuthKey ∧ ∃ key, key.usedAt = none ∧
        (∀ k ∈ db.authKeys.rows, Schema.clash k key = false) ∧
        db'.authKeys.rows = db.authKeys.rows ++ [key]) ∨
      (∃ request hostname ipv4, p = .registerAllocated request hostname ipv4 ∧
        db'.authKeys.rows =
          db.authKeys.rows.map (consumed (clock 3) (hashSecret S request.authKey))) ∨
      ((∀ request hostname ipv4, p ≠ .registerAllocated request hostname ipv4) ∧
        db'.authKeys.rows = db.authKeys.rows) := by
  cases h with
  | createAuthKey h =>
      obtain ⟨key, authKeys, hunused, -, hinsert, rfl⟩ := Db.createAuthKey_ok h
      obtain ⟨hfree, hrows⟩ := Table.insert_eq_some.mp hinsert
      exact Or.inl ⟨rfl, key, hunused, hfree, hrows⟩
  | register h =>
      obtain ⟨_, _, _, _, -, -, -, rfl, -⟩ := Db.registerTx_ok h
      exact Or.inr (Or.inl ⟨_, _, _, rfl, rfl⟩)
  | rename _ h =>
      obtain ⟨_, _, _, -, -, -, rfl⟩ := Db.renameTx_ok h
      exact Or.inr (Or.inr ⟨by simp, rfl⟩)
  | delete h =>
      obtain rfl := Db.deleteTx_ok h
      exact Or.inr (Or.inr ⟨by simp, rfl⟩)
  | heartbeat h =>
      obtain ⟨_, rfl⟩ := Db.storeEndpoints_ok h
      exact Or.inr (Or.inr ⟨by simp, rfl⟩)

/-- Only a registration adds a device row. -/
theorem Commit.deviceIds (h : Commit S clock fresh db p db')
    (hp : ∀ request hostname ipv4, p ≠ .registerAllocated request hostname ipv4) :
    db'.devices.rows.map (·.id) = db.devices.rows.map (·.id) := by
  cases h with
  | createAuthKey h =>
      obtain ⟨_, _, -, -, -, rfl⟩ := Db.createAuthKey_ok h
      rfl
  | register h => exact absurd rfl (hp _ _ _)
  | rename _ h =>
      obtain ⟨_, _, _, -, -, -, rfl⟩ := Db.renameTx_ok h
      exact Table.map_updated _ fun _ _ _ => rfl
  | delete h =>
      obtain rfl := Db.deleteTx_ok h
      exact Table.map_updated _ fun _ _ _ => rfl
  | heartbeat h =>
      obtain ⟨_, rfl⟩ := Db.storeEndpoints_ok h
      exact Table.map_updated _ fun _ _ _ => rfl

-- ============================================================================
-- Registrations under way
-- ============================================================================

/-- The key of a registration that has passed `validate_auth_key`. -/
def Process.presents : Process → Option String
  | registerValidated request _ | registerAllocated request .. => some request.authKey
  | _ => none

theorem validateAuthKey_ok {authKey : String} (h : db.validateAuthKey S authKey = .ok ()) :
    ∃ key, db.authKey (hashSecret S authKey) = some key ∧ (key.reusable = 0 → key.usedAt = none) := by
  unfold Db.validateAuthKey at h
  split at h
  · cases h
  · rename_i key hkey
    refine ⟨key, hkey, fun hreusable => ?_⟩
    split at h
    · cases h
    · split at h
      · cases h
      · rename_i hunused
        rw [not_and, Bool.not_eq_true, Option.isSome_eq_false_iff, Option.isNone_iff_eq_none] at hunused
        exact hunused hreusable

theorem Process.handler_of_presents {k : String} (h : p.presents = some k) :
    p.handler = .registerDevice := by
  cases p with
  | registerValidated request hostname => rfl
  | registerAllocated request hostname ipv4 => rfl
  | _ => cases h

/-- A registration gets past `validate_auth_key` only with a key that is there and,
    if it is a one-time key, unused. -/
theorem Process.next_presents {k : String} (h : p.next S db clock fresh = some (p', db'))
    (hp' : p'.presents = some k) :
    p.presents = some k ∨ db.validateAuthKey S k = .ok () := by
  cases next_register h (handler_of_presents hp') with
  | validated hkey _ =>
      obtain rfl := Option.some.inj hp'
      exact Or.inr hkey
  | allocated _ => exact Or.inl hp'
  | found _ | unknown _ | inserted _ | refused => cases hp'

-- ============================================================================
-- The invariant
-- ============================================================================

namespace ControlState

/-- The device rows created by registrations that presented a key. -/
def admissions (S : Server) (st : ControlState) (keyHash : String) : List Admission :=
  st.admitted.filter fun a => hashSecret S a.authKey == keyHash

/-- A one-time key has admitted at most one device. -/
def OneDevicePerKey (S : Server) (st : ControlState) : Prop :=
  ∀ key ∈ st.db.authKeys.rows, key.reusable = 0 → (st.admissions S key.keyHash).length ≤ 1

/-- If the insert of a registration goes through, the one-time key it presents has
    not been used since it was checked. -/
def FindsKeyUnused (S : Server) (st : ControlState) : Event → Prop
  | .advance r fresh elapsed => ∀ request hostname ipv4 response db',
      st.requests[r]? = some (.registerAllocated request hostname ipv4) →
      st.db.registerTx S (elapsed.clock st.now) fresh request hostname ipv4 = .ok (response, db') →
      ∀ key, st.db.authKey (hashSecret S request.authKey) = some key →
        key.reusable = 0 → key.usedAt = none
  | _ => True

/-- What is known of a key `k` that a registration under way presents: it is in the
    table, and if it is a one-time key that is used, it has admitted a device. -/
def Checked (S : Server) (st : ControlState) (k : String) : Prop :=
  (∃ key ∈ st.db.authKeys.rows, key.keyHash = hashSecret S k) ∧
    ∀ key ∈ st.db.authKeys.rows, key.keyHash = hashSecret S k → key.reusable = 0 →
      key.usedAt.isSome = true → st.admissions S (hashSecret S k) ≠ []

structure KeyInv (S : Server) (st : ControlState) : Prop where
  once : OneDevicePerKey S st
  used : ∀ key ∈ st.db.authKeys.rows, st.admissions S key.keyHash ≠ [] → key.usedAt.isSome = true
  known : ∀ a ∈ st.admitted, ∃ key ∈ st.db.authKeys.rows, key.keyHash = hashSecret S a.authKey
  pending : ∀ p ∈ st.requests, ∀ k, p.presents = some k → Checked S st k

variable {st st' : ControlState}

theorem keyInv_start (db : Db) (now : Timestamp) : KeyInv S (start db now) where
  once := fun _ _ _ => Nat.zero_le _
  used := fun _ _ h => absurd rfl h
  known := fun a ha => by cases ha
  pending := fun p hp => by cases hp

/-- A key that has admitted a device is in the table. -/
theorem KeyInv.known_of_admissions (h : KeyInv S st) {keyHash : String}
    (hadmitted : st.admissions S keyHash ≠ []) :
    ∃ key ∈ st.db.authKeys.rows, key.keyHash = keyHash := by
  obtain ⟨a, ha⟩ := List.exists_mem_of_ne_nil _ hadmitted
  obtain ⟨ha, hhash⟩ := List.mem_filter.mp ha
  obtain ⟨key, hkey, hkeyHash⟩ := h.known a ha
  exact ⟨key, hkey, hkeyHash.trans (beq_iff_eq.mp hhash)⟩

/-- The keys stay as they are, and so does the list of admissions. -/
theorem KeyInv.frame (h : KeyInv S st) (hkeys : st'.db.authKeys.rows = st.db.authKeys.rows)
    (hadmitted : st'.admitted = st.admitted)
    (hpending : ∀ p ∈ st'.requests, ∀ k, p.presents = some k → Checked S st k) : KeyInv S st' := by
  have hadmissions : ∀ keyHash, st'.admissions S keyHash = st.admissions S keyHash := fun keyHash => by
    rw [admissions, hadmitted, admissions]
  refine ⟨?_, ?_, ?_, ?_⟩
  · intro key hkey
    rw [hadmissions]
    exact h.once key (hkeys ▸ hkey)
  · intro key hkey
    rw [hadmissions]
    exact h.used key (hkeys ▸ hkey)
  · intro a ha
    rw [hkeys]
    exact h.known a (hadmitted ▸ ha)
  · intro p hp k hk
    rw [Checked, hkeys, hadmissions]
    exact hpending p hp k hk

/-- A key is created. -/
theorem KeyInv.create (h : KeyInv S st) {key : AuthKeyRow} (hunused : key.usedAt = none)
    (hfree : ∀ k ∈ st.db.authKeys.rows, Schema.clash k key = false)
    (hkeys : st'.db.authKeys.rows = st.db.authKeys.rows ++ [key])
    (hadmitted : st'.admitted = st.admitted)
    (hpending : ∀ p ∈ st'.requests, ∀ k, p.presents = some k → Checked S st k) : KeyInv S st' := by
  have hadmissions : ∀ keyHash, st'.admissions S keyHash = st.admissions S keyHash := fun keyHash => by
    rw [admissions, hadmitted, admissions]
  -- nothing was admitted under the new key: its hash was not in the table
  have hnew : st.admissions S key.keyHash = [] := by
    by_contra hne
    obtain ⟨k, hk, hhash⟩ := h.known_of_admissions hne
    have hclash := hfree k hk
    rw [show Schema.clash k key = (k.id == key.id || k.keyHash == key.keyHash) from rfl, hhash,
      beq_self_eq_true, Bool.or_true] at hclash
    cases hclash
  refine ⟨?_, ?_, ?_, ?_⟩
  · intro k hk hreusable
    rw [hadmissions]
    rcases List.mem_append.mp (hkeys ▸ hk) with hk | hk
    · exact h.once k hk hreusable
    · rw [List.mem_singleton.mp hk, hnew]
      exact Nat.zero_le _
  · intro k hk hne
    rw [hadmissions] at hne
    rcases List.mem_append.mp (hkeys ▸ hk) with hk | hk
    · exact h.used k hk hne
    · rw [List.mem_singleton.mp hk] at hne
      exact absurd hnew hne
  · intro a ha
    obtain ⟨k, hk, hhash⟩ := h.known a (hadmitted ▸ ha)
    exact ⟨k, hkeys ▸ List.mem_append_left _ hk, hhash⟩
  · intro p hp k hk
    obtain ⟨⟨key', hkey', hhash'⟩, hused⟩ := hpending p hp k hk
    refine ⟨⟨key', hkeys ▸ List.mem_append_left _ hkey', hhash'⟩, fun key₁ hkey₁ => ?_⟩
    rw [hadmissions]
    rcases List.mem_append.mp (hkeys ▸ hkey₁) with hkey₁ | hkey₁
    · exact hused key₁ hkey₁
    · rw [List.mem_singleton.mp hkey₁, hunused]
      intro _ _ hsome
      cases hsome

theorem admissions_concat {a : Admission} (hadmitted : st'.admitted = st.admitted ++ [a])
    (keyHash : String) :
    st'.admissions S keyHash =
      st.admissions S keyHash ++ if hashSecret S a.authKey = keyHash then [a] else [] := by
  rw [admissions, hadmitted, List.filter_append, admissions]
  congr 1
  by_cases hhash : hashSecret S a.authKey = keyHash <;> simp [hhash]

/-- A device is admitted, and the key it presented is marked used. -/
theorem KeyInv.admit (h : KeyInv S st) {a : Admission} {now : Timestamp}
    (hchecked : Checked S st a.authKey)
    (hunused : ∀ key ∈ st.db.authKeys.rows, key.keyHash = hashSecret S a.authKey →
      key.reusable = 0 → key.usedAt = none)
    (hkeys : st'.db.authKeys.rows =
      st.db.authKeys.rows.map (consumed now (hashSecret S a.authKey)))
    (hadmitted : st'.admitted = st.admitted ++ [a])
    (hpending : ∀ p ∈ st'.requests, ∀ k, p.presents = some k → Checked S st k) : KeyInv S st' := by
  refine ⟨?_, ?_, ?_, ?_⟩
  · intro key' hkey' hreusable
    rw [hkeys] at hkey'
    obtain ⟨key, hkey, rfl⟩ := List.mem_map.mp hkey'
    rw [consumed_reusable] at hreusable
    rw [consumed_keyHash, admissions_concat hadmitted, List.length_append]
    by_cases hhash : hashSecret S a.authKey = key.keyHash
    · -- the key was unused, so it had admitted nothing
      have hempty : st.admissions S key.keyHash = [] := by
        by_contra hne
        have hused := h.used key hkey hne
        rw [hunused key hkey hhash.symm hreusable] at hused
        cases hused
      rw [hempty, if_pos hhash]
      exact le_rfl
    · rw [if_neg hhash]
      exact h.once key hkey hreusable
  · intro key' hkey' hne
    rw [hkeys] at hkey'
    obtain ⟨key, hkey, rfl⟩ := List.mem_map.mp hkey'
    by_cases hhash : key.keyHash = hashSecret S a.authKey
    · exact consumed_self hhash
    · rw [consumed_keyHash, admissions_concat hadmitted, if_neg (Ne.symm hhash), List.append_nil] at hne
      exact consumed_used (h.used key hkey hne)
  · intro b hb
    have hknown : ∃ key ∈ st.db.authKeys.rows, key.keyHash = hashSecret S b.authKey := by
      rcases List.mem_append.mp (hadmitted ▸ hb) with hb | hb
      · exact h.known b hb
      · rw [List.mem_singleton.mp hb]
        exact hchecked.1
    obtain ⟨key, hkey, hhash⟩ := hknown
    exact ⟨_, hkeys ▸ List.mem_map_of_mem hkey, (consumed_keyHash _ _ key).trans hhash⟩
  · intro p hp k hk
    obtain ⟨⟨key, hkey, hhash⟩, hused⟩ := hpending p hp k hk
    refine ⟨⟨_, hkeys ▸ List.mem_map_of_mem hkey, (consumed_keyHash _ _ key).trans hhash⟩, ?_⟩
    intro key' hkey' hhash' hreusable hsome
    rw [hkeys] at hkey'
    obtain ⟨key, hkey, rfl⟩ := List.mem_map.mp hkey'
    rw [admissions_concat hadmitted]
    by_cases hsame : hashSecret S a.authKey = hashSecret S k
    · rw [if_pos hsame]
      simp
    · rw [consumed_keyHash] at hhash'
      rw [consumed_reusable] at hreusable
      rw [consumed_of_ne fun heq => hsame (heq.symm.trans hhash')] at hsome
      rw [if_neg hsame, List.append_nil]
      exact hused key hkey hhash' hreusable hsome

-- ============================================================================
-- One step
-- ============================================================================

/-- Only a registration whose insert went through admits a device. -/
theorem admission_eq_none (h : p.next S db clock fresh = some (p', db'))
    (hp : ∀ request hostname ipv4, p ≠ .registerAllocated request hostname ipv4) :
    admission p p' = none := by
  cases p with
  | registerAllocated request hostname ipv4 => exact absurd rfl (hp request hostname ipv4)
  | _ => rfl

/-- What is known of the requests after an event. -/
theorem KeyInv.pending_step {e : Event} (h : KeyInv S st) (hstep : st.step S e = some st') :
    ∀ q ∈ st'.requests, ∀ k, q.presents = some k → Checked S st k := by
  intro q hq k hk
  rcases mem_requests_of_step hstep hq with
    hold | ⟨request, rfl⟩ | ⟨_, _, _, -, rfl⟩ | ⟨p, _, _, hp, hnext⟩
  · exact h.pending q hold k hk
  · cases request <;> cases hk
  · cases hk
  · rcases Process.next_presents hnext hk with hpk | hvalid
    · exact h.pending p hp k hpk
    · obtain ⟨key, hkey, hunused⟩ := validateAuthKey_ok hvalid
      obtain ⟨hmem, hhash⟩ := authKey_eq_some.mp hkey
      refine ⟨⟨key, hmem, hhash⟩, fun key' hmem' hhash' hreusable hsome => ?_⟩
      rw [authKey_unique hmem' hmem (hhash'.trans hhash.symm)] at hreusable hsome
      rw [hunused hreusable] at hsome
      cases hsome

/-- The insert of a registration, with its outcome. -/
theorem next_registerAllocated {request : RegisterDeviceRequest} {hostname ipv4 : String}
    (h : (Process.registerAllocated request hostname ipv4).next S db clock fresh = some (p', db')) :
    (db' = db ∧ admission (.registerAllocated request hostname ipv4) p' = none) ∨
      ∃ response, db.registerTx S clock fresh request hostname ipv4 = .ok (response, db') ∧
        p' = .done (.registered (.ok response)) := by
  cases Process.next_register h (Process.next_handler h) with
  | inserted hok => exact Or.inr ⟨_, hok, rfl⟩
  | refused => exact Or.inl ⟨rfl, rfl⟩

theorem registerTx_authKeys {request : RegisterDeviceRequest} {hostname ipv4 : String}
    {response : RegisterDeviceResponse}
    (h : db.registerTx S clock fresh request hostname ipv4 = .ok (response, db')) :
    db'.authKeys.rows =
      db.authKeys.rows.map (consumed (clock 3) (hashSecret S request.authKey)) := by
  obtain ⟨_, _, _, _, -, -, -, rfl, -⟩ := Db.registerTx_ok h
  rfl

theorem KeyInv.advance (h : KeyInv S st) {r : Nat} {elapsed : Elapsed}
    (hunused : FindsKeyUnused S st (.advance r fresh elapsed))
    (hp : st.requests[r]? = some p)
    (hnext : p.next S st.db (elapsed.clock st.now) fresh = some (p', db'))
    (hpending : ∀ q ∈ st.requests.set r p', ∀ k, q.presents = some k → Checked S st k) :
    KeyInv S ⟨db', st.now + elapsed.total, st.requests.set r p',
      st.admitted ++ (admission p p').toList⟩ := by
  by_cases hregister : ∃ request hostname ipv4, p = .registerAllocated request hostname ipv4
  · obtain ⟨request, hostname, ipv4, rfl⟩ := hregister
    rcases next_registerAllocated hnext with ⟨rfl, hnone⟩ | ⟨response, hok, rfl⟩
    · exact h.frame rfl (by rw [hnone]; exact List.append_nil _) hpending
    · refine h.admit (h.pending _ (List.mem_of_getElem? hp) _ rfl) (fun key hkey hhash => ?_)
        (registerTx_authKeys hok) rfl hpending
      exact hunused request hostname ipv4 response db' hp hok key (authKey_eq_some.mpr ⟨hkey, hhash⟩)
  · have hne : ∀ request hostname ipv4, p ≠ .registerAllocated request hostname ipv4 :=
      fun request hostname ipv4 heq => hregister ⟨request, hostname, ipv4, heq⟩
    have hadmitted : st.admitted ++ (admission p p').toList = st.admitted := by
      rw [admission_eq_none hnext hne]
      exact List.append_nil _
    rcases Process.next_db hnext with rfl | hcommit
    · exact h.frame rfl hadmitted hpending
    · rcases hcommit.authKeys with ⟨-, key, hkey, hfree, hkeys⟩ | ⟨_, _, _, heq, -⟩ | ⟨-, hkeys⟩
      · exact h.create hkey hfree hkeys hadmitted hpending
      · exact absurd heq (hne _ _ _)
      · exact h.frame hkeys hadmitted hpending

theorem KeyInv.step {e : Event} (h : KeyInv S st) (hunused : FindsKeyUnused S st e)
    (hstep : st.step S e = some st') : KeyInv S st' := by
  have hpending := h.pending_step hstep
  cases e with
  | tick seconds =>
      obtain rfl := Option.some.inj hstep
      exact h.frame rfl rfl hpending
  | arrive request =>
      obtain rfl := Option.some.inj hstep
      exact h.frame rfl rfl hpending
  | advance r fresh elapsed =>
      obtain ⟨p, p', db', hp, hnext, rfl⟩ := step_advance.mp hstep
      exact h.advance hunused hp hnext hpending
  | abort r message =>
      obtain ⟨p, reply, hp, -, rfl⟩ := step_abort.mp hstep
      exact h.frame rfl rfl hpending

/-- An insert that goes through on a used one-time key admits a second device. -/
theorem KeyInv.broken {e : Event} (h : KeyInv S st) (hused : ¬ FindsKeyUnused S st e) :
    ∃ st', st.step S e = some st' ∧ ¬ OneDevicePerKey S st' := by
  cases e with
  | advance r fresh elapsed =>
      simp only [FindsKeyUnused, not_forall] at hused
      obtain ⟨request, hostname, ipv4, response, db', hp, hok, key, hkey, hreusable, hsome⟩ := hused
      obtain ⟨hmem, hhash⟩ := authKey_eq_some.mp hkey
      have hchecked := h.pending _ (List.mem_of_getElem? hp) _ rfl
      have hone := hchecked.2 key hmem hhash hreusable (Option.isSome_iff_ne_none.mpr hsome)
      have hnext : (Process.registerAllocated request hostname ipv4).next S st.db
          (elapsed.clock st.now) fresh = some (.done (.registered (.ok response)), db') := by
        simp only [Process.next, Process.registerInsert, hok]
      refine ⟨_, step_advance.mpr ⟨_, _, _, hp, hnext, rfl⟩, fun hall => ?_⟩
      have hmem' : consumed (elapsed.clock st.now 3) (hashSecret S request.authKey) key ∈
          db'.authKeys.rows := registerTx_authKeys hok ▸ List.mem_map_of_mem hmem
      have htwo := hall _ hmem' ((consumed_reusable _ _ key).trans hreusable)
      rw [consumed_keyHash, hhash, admissions_concat rfl, if_pos rfl, List.length_append] at htwo
      have hpos := List.length_pos_iff.mpr hone
      have hlen : [(⟨request.authKey, response.deviceId⟩ : Admission)].length = 1 := rfl
      omega
  | _ => exact absurd trivial hused

-- ============================================================================
-- Whole runs
-- ============================================================================

/-- The device rows are those of `db₀` and one for each admission. -/
def RowsSince (db₀ : Db) (st : ControlState) : Prop :=
  st.db.devices.rows.map (·.id) = db₀.devices.rows.map (·.id) ++ st.admitted.map (·.deviceId)

theorem RowsSince.step {db₀ : Db} {e : Event} (hinv : RowsSince db₀ st)
    (hstep : st.step S e = some st') : RowsSince db₀ st' := by
  unfold RowsSince at hinv
  cases e with
  | tick seconds =>
      obtain rfl := Option.some.inj hstep
      exact hinv
  | arrive request =>
      obtain rfl := Option.some.inj hstep
      exact hinv
  | abort r message =>
      obtain ⟨_, _, -, -, rfl⟩ := step_abort.mp hstep
      exact hinv
  | advance r fresh elapsed =>
      obtain ⟨p, p', db', -, hnext, rfl⟩ := step_advance.mp hstep
      show db'.devices.rows.map (·.id) =
        db₀.devices.rows.map (·.id) ++ (st.admitted ++ (admission p p').toList).map (·.deviceId)
      rw [List.map_append, ← List.append_assoc, ← hinv]
      by_cases hregister : ∃ request hostname ipv4, p = .registerAllocated request hostname ipv4
      · obtain ⟨request, hostname, ipv4, rfl⟩ := hregister
        rcases next_registerAllocated hnext with ⟨rfl, hnone⟩ | ⟨response, hok, rfl⟩
        · rw [hnone]
          exact (List.append_nil _).symm
        · obtain ⟨devices, _, _, _, hinsert, -, -, rfl, rfl, -⟩ := Db.registerTx_ok hok
          show devices.rows.map (·.id) = _ ++ [_]
          rw [(Table.insert_eq_some.mp hinsert).2, List.map_append]
          rfl
      · have hne : ∀ request hostname ipv4, p ≠ .registerAllocated request hostname ipv4 :=
          fun request hostname ipv4 heq => hregister ⟨request, hostname, ipv4, heq⟩
        rw [admission_eq_none hnext hne]
        rcases Process.next_db hnext with rfl | hcommit
        · exact (List.append_nil _).symm
        · exact (hcommit.deviceIds hne).trans (List.append_nil _).symm

/-- What `admitted` lists are rows of the table of devices, and every row that was
    not there at the start is listed once. -/
theorem rowsSince_of_run {db₀ : Db} {now : Timestamp} {events : List Event}
    (h : run (step S) (start db₀ now) events = some st) : RowsSince db₀ st := by
  have hstart : RowsSince db₀ (start db₀ now) := (List.append_nil _).symm
  exact invariant_run (fun _ _ _ hinv hstep => hinv.step hstep) hstart h

/-- **One device per key.**  In every run of the control plane, from any database,
    a one-time key admits at most one device in every state exactly when no
    registration's insert goes through on a one-time key that is already used. -/
theorem one_device_per_key_iff (S : Server) (db : Db) (now : Timestamp) (events : List Event) :
    Throughout (step S) (OneDevicePerKey S) (start db now) events ↔
      Along (step S) (FindsKeyUnused S) (start db now) events :=
  throughout_iff_along (fun _ h => h.once) (fun _ _ _ h hunused hstep => h.step hunused hstep)
    (fun _ _ h hused => h.broken hused) (keyInv_start db now) events

end ControlState

namespace Reference

/-- Two registrations check the key, and then insert one after the other. -/
def raceEvents : List Event :=
  [.arrive .createAuthKey, advance 0,
   .arrive (.registerDevice (registration "alpha")), .arrive (.registerDevice (registration "beta")),
   advance 1, advance 1, advance 2, advance 2,
   advance 1, advance 1, advance 2, advance 2]

end Reference

open Reference in
/-- The key is a one-time key, both registrations go through, and there are two
    device rows. -/
theorem one_time_key_admits_two :
    ∃ st, run (step server) (start .empty 0) raceEvents = some st ∧
      st.db.devices.rows.map (·.machineKey) = ["machine-alpha", "machine-beta"] ∧
      ¬ OneDevicePerKey server st := by
  have hrun : (run (step server) (start .empty 0) raceEvents).any (fun st =>
      st.db.devices.rows.map (·.machineKey) = ["machine-alpha", "machine-beta"] ∧
      st.db.authKeys.rows.any fun key =>
        key.reusable = 0 ∧ (st.admissions server key.keyHash).length = 2) = true := by
    decide +kernel
  obtain ⟨st, hst, hfacts⟩ := (Option.any_eq_true _ _).mp hrun
  obtain ⟨hdevices, hkeys⟩ := of_decide_eq_true hfacts
  obtain ⟨key, hkey, hkeyFacts⟩ := List.any_eq_true.mp hkeys
  obtain ⟨hreusable, htwo⟩ := of_decide_eq_true hkeyFacts
  refine ⟨st, hst, hdevices, fun hone => ?_⟩
  have hle := hone key hkey hreusable
  omega

end TfScale.Control
