import DatabaseSync.Control.Accounts
import DatabaseSync.Library.Transition

/-! # Runs of the console

Requests run in parallel: what a login or a change of password has read may have changed when it
writes. The system keeps, beside the tables, the halves that are under way, the logins that have
been answered and the attempts that have been counted since a name last logged in.
-/

namespace DatabaseSync.Control

open Checked FixedWindow

/-- A login whose password has been verified. -/
structure PendingLogin where
  time : ℤ
  name : String
  password : String
  row : UserRow
  oldToken : Option String
deriving DecidableEq

/-- A change of password whose old password has been verified. -/
structure PendingChange where
  id : ℕ
  oldHash : String
deriving DecidableEq

/-- A login that has been answered with a session. -/
structure Opened where
  tokenHash : List UInt8
  userId : ℕ
  password : String

structure Console where
  accounts : Accounts
  clock : ℤ
  logins : List PendingLogin
  changes : List PendingChange
  opened : List Opened
  attempted : String → List ℤ

namespace Console

/-- The first start of the store, with no users. -/
def init (clock : ℤ) : Console := ⟨⟨[], [], fun _ => none⟩, clock, [], [], [], fun _ => []⟩

/-- An attempt is counted for everybody and for the name. -/
def attempt (s : Console) (name : String) : String → List ℤ := fun key =>
  if key = "global" ∨ key = "user:" ++ name then s.clock :: s.attempted key else s.attempted key

end Console

inductive ConsoleAction
  | tick (time : ℤ)
  | bootstrap
  | beginLogin
  | finishLogin
  | forget
  | logout
  | createUser
  | updateUser
  | deleteUser
  | theme
  | beginChangePassword
  | finishChangePassword
deriving DecidableEq

variable (secrets : Secrets)

/-- One transaction of a request. A failed one changes nothing. -/
inductive ConsoleStep : Console → ConsoleAction → Console → Prop
  | tick {s : Console} (time : ℤ) : ConsoleStep s (.tick time) { s with clock := time }
  | bootstrap {s : Console} {accounts : Accounts} {hash : String} :
      s.accounts.bootstrapDefaultAdmin hash = .ok accounts →
      ConsoleStep s .bootstrap { s with accounts }
  | bootstrapAdmin {s : Console} {accounts : Accounts} {name password hash : String} :
      s.accounts.bootstrapAdmin name password hash = .ok accounts →
      ConsoleStep s .bootstrap { s with accounts }
  | loginVerified {s : Console} {accounts : Accounts} {stored : Option UserRow} {row : UserRow}
      {name password : String} {oldToken : Option String} :
      s.accounts.beginLogin s.clock name password = .ok (accounts, stored) →
      Accounts.verified secrets password stored = .ok row →
      ConsoleStep s .beginLogin { s with
        accounts, attempted := s.attempt name
        logins := ⟨s.clock, name, password, row, oldToken⟩ :: s.logins }
  | loginRefused {s : Console} {accounts : Accounts} {stored : Option UserRow}
      {error : AccountError} {name password : String} :
      s.accounts.beginLogin s.clock name password = .ok (accounts, stored) →
      Accounts.verified secrets password stored = .error error →
      ConsoleStep s .beginLogin { s with accounts, attempted := s.attempt name }
  | finishLogin {s : Console} {accounts : Accounts} {p : PendingLogin} {session : Session}
      {token csrfToken : String} :
      p ∈ s.logins →
      s.accounts.finishLogin secrets p.time p.name p.row p.oldToken token csrfToken =
        .ok (accounts, session) →
      ConsoleStep s .finishLogin { s with
        accounts, attempted := Function.update s.attempted ("user:" ++ p.name) []
        logins := s.logins.erase p
        opened := ⟨session.tokenHash, session.user.id, p.password⟩ :: s.opened }
  /-- A request ends, or is lost with the process. -/
  | forget {s : Console} {logins : List PendingLogin} {changes : List PendingChange} :
      logins ⊆ s.logins → changes ⊆ s.changes →
      ConsoleStep s .forget { s with logins, changes }
  | logout {s : Console} (tokenHash : List UInt8) :
      ConsoleStep s .logout { s with accounts := s.accounts.logout tokenHash }
  | createUser {s : Console} {accounts : Accounts} {user : User} {actor : ℕ}
      {input : Accounts.NewUser} {hash : String} :
      s.accounts.createUser actor input hash = .ok (accounts, user) →
      ConsoleStep s .createUser { s with accounts }
  | updateUser {s : Console} {accounts : Accounts} {user : User} {actor id : ℕ}
      {owner note : String} {password : Option (String × String)} :
      s.accounts.updateUser actor id owner note password = .ok (accounts, user) →
      ConsoleStep s .updateUser { s with accounts }
  | deleteUser {s : Console} {accounts : Accounts} {actor id : ℕ} :
      s.accounts.deleteUser actor id = .ok accounts →
      ConsoleStep s .deleteUser { s with accounts }
  | theme {s : Console} {accounts : Accounts} {user : User} {id : ℕ} {value : String} :
      s.accounts.theme id value = .ok (accounts, user) →
      ConsoleStep s .theme { s with accounts }
  | beginChangePassword {s : Console} {id : ℕ} {old new oldHash : String} :
      s.accounts.beginChangePassword secrets id old new = .ok oldHash →
      ConsoleStep s .beginChangePassword { s with changes := ⟨id, oldHash⟩ :: s.changes }
  | finishChangePassword {s : Console} {accounts : Accounts} {p : PendingChange} {hash : String} :
      p ∈ s.changes → s.accounts.finishChangePassword p.id p.oldHash hash = .ok accounts →
      ConsoleStep s .finishChangePassword { s with accounts, changes := s.changes.erase p }

variable {secrets} {opened opened' : List Opened} {db db' : Accounts} {id actor : ℕ}
  {row : UserRow} {change : UserRow → UserRow} {sessions : List SessionRow}

/-! ## Sessions and passwords -/

/-- Every session was opened by a login with the password that its user has now. -/
structure Current (secrets : Secrets) (opened : List Opened) (db : Accounts) : Prop where
  ids : (db.users.map (·.id)).Nodup
  tokens : (db.sessions.map (·.tokenHash)).Nodup
  sessions : ∀ t ∈ db.sessions, ∃ u ∈ db.users, u.id = t.userId ∧
    ∃ e ∈ opened, e.tokenHash = t.tokenHash ∧ e.userId = t.userId ∧
      secrets.verifyPassword e.password u.passwordHash = true
  bounded : ∀ id, (db.sessions.filter (·.userId = id)).length ≤ 20

namespace Current

theorem mono (h : Current secrets opened db) (hsub : opened ⊆ opened') :
    Current secrets opened' db where
  ids := h.ids
  tokens := h.tokens
  bounded := h.bounded
  sessions t ht := by
    obtain ⟨u, hu, hid, e, he, hopened⟩ := h.sessions t ht
    exact ⟨u, hu, hid, e, hsub he, hopened⟩

/-- Sessions can end at any time. -/
theorem end_sessions (h : Current secrets opened db) (hsub : sessions.Sublist db.sessions) :
    Current secrets opened { db with sessions } where
  ids := h.ids
  tokens := h.tokens.sublist (hsub.map _)
  bounded id := ((hsub.filter _).length_le).trans (h.bounded id)
  sessions t ht := h.sessions t (hsub.subset ht)

theorem setLoginAttempts (h : Current secrets opened db)
    (loginAttempts : String → Option Window) :
    Current secrets opened { db with loginAttempts } :=
  ⟨h.ids, h.tokens, h.sessions, h.bounded⟩

theorem ids_setUser (hid : ∀ u, (change u).id = u.id) :
    (db.setUser id change).users.map (·.id) = db.users.map (·.id) := by
  unfold Accounts.setUser
  rw [List.map_map]
  apply List.map_congr_left
  intro u _
  dsimp only [Function.comp_apply]
  split
  · exact hid u
  · rfl

/-- A user changes; the sessions that stay are of others, or the password stays. -/
theorem setUser (h : Current secrets opened db) (hid : ∀ u, (change u).id = u.id)
    (hsub : sessions.Sublist db.sessions)
    (hstay : ∀ t ∈ sessions, t.userId ≠ id ∨ ∀ u, (change u).passwordHash = u.passwordHash) :
    Current secrets opened { db.setUser id change with sessions } where
  ids := (ids_setUser hid).symm ▸ h.ids
  tokens := h.tokens.sublist (hsub.map _)
  bounded id := ((hsub.filter _).length_le).trans (h.bounded id)
  sessions t ht := by
    obtain ⟨u, hu, huser, e, he, htoken, howner, hverify⟩ := h.sessions t (hsub.subset ht)
    refine ⟨if u.id = id then change u else u, List.mem_map.mpr ⟨u, hu, rfl⟩, ?_, e, he, htoken,
      howner, ?_⟩
    · split
      · exact (hid u).trans huser
      · exact huser
    · split
      · next hsame =>
        rcases hstay t ht with hother | hpassword
        · exact absurd (huser.symm.trans hsame) hother
        · rw [hpassword u]
          exact hverify
      · exact hverify

theorem lt_nextId (hu : row ∈ db.users) : row.id < db.nextId := by
  have hle : ∀ (l : List ℕ) (n : ℕ), n ∈ l → n ≤ l.foldr max 0 := by
    intro l
    induction l with
    | nil => simp
    | cons m l ih =>
      rintro n (_ | ⟨_, hn⟩)
      · exact le_max_left _ _
      · exact (ih n hn).trans (le_max_right _ _)
  exact Nat.lt_succ_of_le (hle _ _ (List.mem_map_of_mem hu))

theorem addUser (h : Current secrets opened db) (hid : row.id = db.nextId) :
    Current secrets opened { db with users := db.users ++ [row] } := by
  refine ⟨?_, h.tokens, fun t ht => ?_, h.bounded⟩
  · rw [List.map_append, List.nodup_append]
    refine ⟨h.ids, List.nodup_singleton _, ?_⟩
    rintro _ hold _ hnew rfl
    obtain ⟨u, hu, hsame⟩ := List.mem_map.mp hold
    rw [List.map_singleton, List.mem_singleton] at hnew
    exact absurd (lt_nextId hu) (by omega)
  · obtain ⟨u, hu, hsession⟩ := h.sessions t ht
    exact ⟨u, List.mem_append_left _ hu, hsession⟩

/-- The sessions of a user that goes end with it. -/
theorem removeUser (h : Current secrets opened db) :
    Current secrets opened
      { db.endSessions id with users := db.users.filter fun u => u.id ≠ id } where
  ids := h.ids.sublist (List.filter_sublist.map _)
  tokens := h.tokens.sublist (List.filter_sublist.map _)
  bounded id := ((List.filter_sublist.filter _).length_le).trans (h.bounded id)
  sessions t ht := by
    obtain ⟨ht, hother⟩ := List.mem_filter.mp ht
    obtain ⟨u, hu, huser, hopened⟩ := h.sessions t ht
    refine ⟨u, List.mem_filter.mpr ⟨hu, ?_⟩, huser, hopened⟩
    rw [huser]
    exact hother

/-- A new password ends the sessions of its user. -/
theorem changePassword (h : Current secrets opened db) (hid : ∀ u, (change u).id = u.id) :
    Current secrets opened ((db.setUser id change).endSessions id) := by
  refine h.setUser hid List.filter_sublist fun t ht => .inl ?_
  simpa using (List.mem_filter.mp ht).2

/-- What is kept of one user has its tokens among the newest twenty. -/
theorem boundSessions_length (h : (sessions.map (·.tokenHash)).Nodup) :
    ((Accounts.boundSessions id sessions).filter (·.userId = id)).length ≤ 20 := by
  have hkept : ((Accounts.boundSessions id sessions).filter (·.userId = id)).map (·.tokenHash) ⊆
      (((sessions.filter (·.userId = id)).reverse.insertionSort
        fun s t => t.expiresAt ≤ s.expiresAt).take 20).map (·.tokenHash) := by
    rintro _ hmem
    obtain ⟨t, ht, rfl⟩ := List.mem_map.mp hmem
    obtain ⟨ht, hid⟩ := List.mem_filter.mp ht
    obtain ⟨-, hnewest⟩ := List.mem_filter.mp ht
    rw [decide_eq_true_eq] at hid hnewest
    rcases hnewest with hother | hnewest
    · exact absurd hid hother
    · exact hnewest
  have hnodup : (((Accounts.boundSessions id sessions).filter (·.userId = id)).map
      (·.tokenHash)).Nodup :=
    h.sublist ((List.filter_sublist.trans List.filter_sublist).map _)
  have hlength := (List.subperm_of_subset hnodup hkept).length_le
  rw [List.length_map, List.length_map] at hlength
  exact hlength.trans (List.length_take_le _ _)

/-- A login opens a session for the password that its user still has. -/
theorem openSession (h : Current secrets opened db) (session : SessionRow) (e : Opened)
    (hsub : sessions.Sublist db.sessions) (hnew : ∀ t ∈ sessions, t.tokenHash ≠ session.tokenHash)
    (hid : session.userId = id) (he : e.tokenHash = session.tokenHash ∧ e.userId = id)
    (hu : ∃ u ∈ db.users, u.id = id ∧
      secrets.verifyPassword e.password u.passwordHash = true) :
    Current secrets (e :: opened)
      { db with sessions := Accounts.boundSessions id (sessions ++ [session]) } := by
  have hends := h.end_sessions hsub
  have htokens : ((sessions ++ [session]).map (·.tokenHash)).Nodup := by
    rw [List.map_append, List.nodup_append]
    refine ⟨hends.tokens, List.nodup_singleton _, ?_⟩
    rintro _ hold _ hlast rfl
    obtain ⟨t, ht, hsame⟩ := List.mem_map.mp hold
    rw [List.map_singleton, List.mem_singleton] at hlast
    exact hnew t ht (hsame.trans hlast)
  have hkept :
      (Accounts.boundSessions id (sessions ++ [session])).Sublist (sessions ++ [session]) :=
    List.filter_sublist
  refine ⟨h.ids, htokens.sublist (hkept.map _), fun t ht => ?_, fun other => ?_⟩
  · rcases List.mem_append.mp (hkept.subset ht) with hold | hlast
    · obtain ⟨u, hu, huser, e', he', hopened⟩ := hends.sessions t hold
      exact ⟨u, hu, huser, e', List.mem_cons_of_mem _ he', hopened⟩
    · obtain rfl := List.mem_singleton.mp hlast
      obtain ⟨u, hu, huser, hverify⟩ := hu
      exact ⟨u, hu, huser.trans hid.symm, e, List.mem_cons_self, he.1, he.2.trans hid.symm,
        hverify⟩
  · by_cases hother : other = id
    · subst hother
      exact boundSessions_length htokens
    · have hdrop : (sessions ++ [session]).filter (·.userId = other) =
          sessions.filter (·.userId = other) := by
        rw [List.filter_append, List.filter_singleton, hid]
        simp [Ne.symm hother]
      calc ((Accounts.boundSessions id (sessions ++ [session])).filter (·.userId = other)).length
        _ ≤ ((sessions ++ [session]).filter (·.userId = other)).length :=
          (hkept.filter _).length_le
        _ = (sessions.filter (·.userId = other)).length := by rw [hdrop]
        _ ≤ 20 := hends.bounded other

end Current

/-- The sessions are current, and what is under way has verified its password. -/
structure Sound (secrets : Secrets) (s : Console) : Prop where
  current : Current secrets s.opened s.accounts
  logins : ∀ p ∈ s.logins, secrets.verifyPassword p.password p.row.passwordHash = true

variable {s s' : Console} {a : ConsoleAction}

theorem Sound.init (clock : ℤ) : Sound secrets (Console.init clock) :=
  ⟨⟨List.nodup_nil, List.nodup_nil, nofun, fun _ => Nat.zero_le _⟩, nofun⟩

theorem Sound.with_accounts (h : Sound secrets s) {accounts : Accounts}
    (hcurrent : Current secrets s.opened accounts) :
    Sound secrets { s with accounts } := ⟨hcurrent, h.logins⟩

/-- One step keeps the sessions current. -/
theorem Sound.step (h : Sound secrets s) (hstep : ConsoleStep secrets s a s') :
    Sound secrets s' := by
  cases hstep with
  | tick time => exact ⟨h.current, h.logins⟩
  | bootstrap hboot =>
    obtain ⟨row, hid, -, rfl⟩ := Accounts.insertInitialAdmin_spec hboot
    exact h.with_accounts (h.current.addUser hid)
  | bootstrapAdmin hboot =>
    obtain ⟨row, hid, -, rfl⟩ := Accounts.bootstrapAdmin_spec hboot
    exact h.with_accounts (h.current.addUser hid)
  | loginVerified hbegin hverified =>
    obtain ⟨_, _, -, -, rfl⟩ := Accounts.beginLogin_spec hbegin
    refine ⟨(h.current.end_sessions List.filter_sublist).setLoginAttempts _, ?_⟩
    rintro p (_ | ⟨_, hp⟩)
    · exact Accounts.verified_spec hverified
    · exact h.logins p hp
  | loginRefused hbegin hverified =>
    obtain ⟨_, _, -, -, rfl⟩ := Accounts.beginLogin_spec hbegin
    exact ⟨(h.current.end_sessions List.filter_sublist).setLoginAttempts _, h.logins⟩
  | @finishLogin _ p session token csrfToken hp hfinish =>
    obtain ⟨⟨u, hu, hid, hhash⟩, htoken, huser, sessions, hsub, hnew, rfl⟩ :=
      Accounts.finishLogin_spec hfinish
    have hverify : secrets.verifyPassword p.password u.passwordHash = true := by
      rw [hhash]
      exact h.logins p hp
    have hopened := h.current.openSession
      ⟨secrets.digest token, p.row.id, csrfToken, p.time + sessionSeconds⟩
      ⟨session.tokenHash, session.user.id, p.password⟩ hsub hnew rfl ⟨htoken, huser⟩
      ⟨u, hu, hid, hverify⟩
    exact ⟨hopened.setLoginAttempts _, fun q hq => h.logins q (List.mem_of_mem_erase hq)⟩
  | forget hlogins _ => exact ⟨h.current, fun p hp => h.logins p (hlogins hp)⟩
  | logout tokenHash => exact h.with_accounts (h.current.end_sessions List.filter_sublist)
  | createUser hcreate =>
    obtain ⟨-, row, hid, rfl⟩ := Accounts.createUser_spec hcreate
    exact h.with_accounts (h.current.addUser hid)
  | updateUser hupdate =>
    obtain ⟨change, hkeep, ⟨hpassword, rfl⟩ | rfl⟩ := Accounts.updateUser_spec hupdate
    · exact h.with_accounts (h.current.setUser (fun u => (hkeep u).1) (List.Sublist.refl _)
        fun _ _ => .inr hpassword)
    · exact h.with_accounts (h.current.changePassword fun u => (hkeep u).1)
  | deleteUser hdelete =>
    obtain ⟨row, -, -, rfl⟩ := Accounts.deleteUser_spec hdelete
    exact h.with_accounts h.current.removeUser
  | theme htheme =>
    obtain rfl := Accounts.theme_spec htheme
    exact h.with_accounts (h.current.setUser (fun _ => rfl) (List.Sublist.refl _)
      fun _ _ => .inr fun _ => rfl)
  | beginChangePassword _ => exact ⟨h.current, h.logins⟩
  | finishChangePassword _ hfinish =>
    obtain rfl := Accounts.finishChangePassword_spec hfinish
    exact ⟨h.current.changePassword fun _ => rfl, h.logins⟩

theorem Sound.run {clock : ℤ} (hrun : Transition.Run (ConsoleStep secrets) (Console.init clock) s) :
    Sound secrets s :=
  hrun.invariant (fun _ _ _ hs hstep => hs.step hstep) (Sound.init clock)

/-- In every state of every run, a session is only accepted while the password that it was opened
with is the password of its user, however logins and changes of password overlap. -/
theorem session_current {clock : ℤ} {token : String} {session : Session}
    (hrun : Transition.Run (ConsoleStep secrets) (Console.init clock) s)
    (h : s.accounts.session secrets s.clock token = .ok session) :
    ∃ e ∈ s.opened, e.tokenHash = secrets.digest token ∧ e.userId = session.user.id ∧
      ∃ u ∈ s.accounts.users, u.user = session.user ∧
        secrets.verifyPassword e.password u.passwordHash = true := by
  have hsound := (Sound.run hrun).current
  obtain ⟨t, ht, htoken, hidentity, row, hrow, huser⟩ := Accounts.session_spec h
  obtain ⟨u, hu, hid, e, he, hopened, howner, hverify⟩ := hsound.sessions t ht
  obtain ⟨hmem, hrowid⟩ := Accounts.user_eq_some hrow
  have hsame : u = row := List.inj_on_of_nodup_map hsound.ids hu hmem (hid.trans hrowid.symm)
  subst hsame
  refine ⟨e, he, hopened.trans htoken, ?_, u, hu, huser, hverify⟩
  rw [howner, ← hid, ← huser]
  rfl

/-- In every state of every run a user has at most twenty sessions, each under a token of its
own and of a user that exists. -/
theorem sessions_bounded {clock : ℤ}
    (hrun : Transition.Run (ConsoleStep secrets) (Console.init clock) s) :
    (s.accounts.sessions.map (·.tokenHash)).Nodup ∧
      (∀ t ∈ s.accounts.sessions, ∃ u ∈ s.accounts.users, u.id = t.userId) ∧
      ∀ id, (s.accounts.sessions.filter (·.userId = id)).length ≤ 20 := by
  have hsound := (Sound.run hrun).current
  refine ⟨hsound.tokens, fun t ht => ?_, hsound.bounded⟩
  obtain ⟨u, hu, hid, -⟩ := hsound.sessions t ht
  exact ⟨u, hu, hid⟩

/-! ## Administrators -/

def HasAdmin (db : Accounts) : Prop := ∃ u ∈ db.users, u.role = "admin"

theorem HasAdmin.addUser (h : HasAdmin db) :
    HasAdmin { db with users := db.users ++ [row] } := by
  obtain ⟨u, hu, hrole⟩ := h
  exact ⟨u, List.mem_append_left _ hu, hrole⟩

theorem HasAdmin.setUser (h : HasAdmin db) (hkeep : ∀ u, (change u).role = u.role) :
    HasAdmin (db.setUser id change) := by
  obtain ⟨u, hu, hrole⟩ := h
  refine ⟨if u.id = id then change u else u, List.mem_map.mpr ⟨u, hu, rfl⟩, ?_⟩
  split
  · rw [hkeep u, hrole]
  · exact hrole

/-- The last administrator is not deleted: another one has another id. -/
theorem HasAdmin.removeUser (h : HasAdmin db) (hids : (db.users.map (·.id)).Nodup)
    (hrow : db.user id = some row)
    (hlast : row.role = "admin" → 1 < (db.users.filter (·.role = "admin")).length) :
    HasAdmin { db.endSessions id with users := db.users.filter fun u => u.id ≠ id } := by
  obtain ⟨hmem, hid⟩ := Accounts.user_eq_some hrow
  have hother : ∃ u ∈ db.users, u.role = "admin" ∧ u.id ≠ id := by
    by_contra hnone
    have hall : ∀ u ∈ db.users, u.role = "admin" → u.id = id := by
      intro u hu hrole
      by_contra hne
      exact hnone ⟨u, hu, hrole, hne⟩
    obtain ⟨u, hu, hrole⟩ := h
    have hsame : u = row :=
      List.inj_on_of_nodup_map hids hu hmem ((hall u hu hrole).trans hid.symm)
    have hmany := hlast (hsame ▸ hrole)
    have hnodup : (db.users.filter (·.role = "admin")).Nodup := (hids.of_map _).filter _
    have hone : db.users.filter (·.role = "admin") ⊆ [row] := by
      intro v hv
      obtain ⟨hv, hrole⟩ := List.mem_filter.mp hv
      rw [List.mem_singleton]
      exact List.inj_on_of_nodup_map hids hv hmem
        ((hall v hv (by simpa using hrole)).trans hid.symm)
    have hlength := (List.subperm_of_subset hnodup hone).length_le
    rw [List.length_singleton] at hlength
    omega
  obtain ⟨u, hu, hrole, hne⟩ := hother
  exact ⟨u, List.mem_filter.mpr ⟨hu, by simpa using hne⟩, hrole⟩

/-- There is an administrator where there are users. -/
def Administered (db : Accounts) : Prop := db.users = [] ∨ HasAdmin db

theorem Administered.setUser (h : Administered db) (hkeep : ∀ u, (change u).role = u.role) :
    Administered (db.setUser id change) := by
  rcases h with hnone | hadmin
  · exact .inl (by rw [Accounts.setUser, hnone]; rfl)
  · exact .inr (hadmin.setUser hkeep)

theorem Administered.step (h : Administered s.accounts)
    (hids : (s.accounts.users.map (·.id)).Nodup) (hstep : ConsoleStep secrets s a s') :
    Administered s'.accounts := by
  cases hstep with
  | tick time => exact h
  | bootstrap hboot =>
    obtain ⟨row, -, hrole, rfl⟩ := Accounts.insertInitialAdmin_spec hboot
    exact .inr ⟨row, List.mem_append_right _ List.mem_cons_self, hrole⟩
  | bootstrapAdmin hboot =>
    obtain ⟨row, -, hrole, rfl⟩ := Accounts.bootstrapAdmin_spec hboot
    exact .inr ⟨row, List.mem_append_right _ List.mem_cons_self, hrole⟩
  | loginVerified hbegin _ =>
    obtain ⟨_, _, -, -, rfl⟩ := Accounts.beginLogin_spec hbegin
    exact h
  | loginRefused hbegin _ =>
    obtain ⟨_, _, -, -, rfl⟩ := Accounts.beginLogin_spec hbegin
    exact h
  | finishLogin _ hfinish =>
    obtain ⟨-, -, -, _, -, -, rfl⟩ := Accounts.finishLogin_spec hfinish
    exact h
  | forget _ _ => exact h
  | logout _ => exact h
  | createUser hcreate =>
    -- only an administrator creates users
    obtain ⟨hadmin, row, -, rfl⟩ := Accounts.createUser_spec hcreate
    exact .inr (HasAdmin.addUser hadmin)
  | updateUser hupdate =>
    obtain ⟨change, hkeep, ⟨-, rfl⟩ | rfl⟩ := Accounts.updateUser_spec hupdate
    · exact h.setUser fun u => (hkeep u).2
    · exact h.setUser fun u => (hkeep u).2
  | deleteUser hdelete =>
    obtain ⟨row, hrow, hlast, rfl⟩ := Accounts.deleteUser_spec hdelete
    rcases h with hnone | hadmin
    · exact absurd (Accounts.user_eq_some hrow).1 (hnone ▸ List.not_mem_nil)
    · exact .inr (hadmin.removeUser hids hrow hlast)
  | theme htheme =>
    obtain rfl := Accounts.theme_spec htheme
    exact h.setUser fun _ => rfl
  | beginChangePassword _ => exact h
  | finishChangePassword _ hfinish =>
    obtain rfl := Accounts.finishChangePassword_spec hfinish
    exact h.setUser fun _ => rfl

/-- In every state of every run an administrator is left, once there are users. -/
theorem always_administered {clock : ℤ}
    (hrun : Transition.Run (ConsoleStep secrets) (Console.init clock) s) :
    s.accounts.users = [] ∨ ∃ u ∈ s.accounts.users, u.role = "admin" := by
  have hboth : Sound secrets s ∧ Administered s.accounts := by
    refine hrun.invariant (P := fun s => Sound secrets s ∧ Administered s.accounts) ?_
      ⟨Sound.init clock, .inl rfl⟩
    rintro s a s' ⟨hsound, hadmin⟩ hstep
    exact ⟨hsound.step hstep, hadmin.step hsound.current.ids hstep⟩
  exact hboth.2

/-! ## Attempts to log in -/

/-- The clock is not set back. -/
def Forward (s : Console) (a : ConsoleAction) (_ : Console) : Prop :=
  ∀ time, a = .tick time → s.clock ≤ time

def attemptLimit (key : String) : ℕ := if key = "global" then 60 else 6

/-- The counters have counted the attempts. -/
def Limited (s : Console) : Prop :=
  ∀ key, Counted (attemptLimit key) 60 (s.accounts.loginAttempts key) (s.attempted key) s.clock

theorem Limited.beginLogin {name password : String} {stored : Option UserRow}
    (h : Limited s) (hbegin : s.accounts.beginLogin s.clock name password = .ok (db, stored)) :
    ∀ key, Counted (attemptLimit key) 60 (db.loginAttempts key) (s.attempt name key) s.clock := by
  obtain ⟨everybody, named, heverybody, hnamed, rfl⟩ := Accounts.beginLogin_spec hbegin
  intro key
  unfold Console.attempt
  by_cases huser : key = "user:" ++ name
  · subst huser
    have hlimit : attemptLimit ("user:" ++ name) = 6 := if_neg (Accounts.userKey_ne_global name)
    rw [if_pos (.inr rfl)]
    dsimp only
    rw [Function.update_self, hlimit]
    exact (hlimit ▸ h ("user:" ++ name)).allow (by omega) hnamed
  · by_cases hglobal : key = "global"
    · subst hglobal
      rw [if_pos (.inl rfl)]
      dsimp only
      rw [Function.update_of_ne huser, Function.update_self]
      exact (h "global").allow (by omega) heverybody
    · rw [if_neg (not_or.mpr ⟨hglobal, huser⟩)]
      dsimp only
      rw [Function.update_of_ne huser, Function.update_of_ne hglobal]
      exact (h key).expire

theorem Limited.step (h : Limited s) (hstep : ConsoleStep secrets s a s')
    (hforward : Forward s a s') : Limited s' := by
  cases hstep with
  | tick time => exact fun key => (h key).wait (hforward time rfl)
  | bootstrap hboot =>
    obtain ⟨row, -, -, rfl⟩ := Accounts.insertInitialAdmin_spec hboot
    exact h
  | bootstrapAdmin hboot =>
    obtain ⟨row, -, -, rfl⟩ := Accounts.bootstrapAdmin_spec hboot
    exact h
  | loginVerified hbegin _ => exact h.beginLogin hbegin
  | loginRefused hbegin _ => exact h.beginLogin hbegin
  | @finishLogin _ p session token csrfToken _ hfinish =>
    obtain ⟨-, -, -, _, -, -, rfl⟩ := Accounts.finishLogin_spec hfinish
    intro key
    dsimp only
    by_cases huser : key = "user:" ++ p.name
    · subst huser
      rw [Function.update_self, Function.update_self]
      exact Counted.nil _
    · rw [Function.update_of_ne huser, Function.update_of_ne huser]
      exact h key
  | forget _ _ => exact h
  | logout _ => exact h
  | createUser hcreate =>
    obtain ⟨-, row, -, rfl⟩ := Accounts.createUser_spec hcreate
    exact h
  | updateUser hupdate =>
    obtain ⟨change, -, ⟨-, rfl⟩ | rfl⟩ := Accounts.updateUser_spec hupdate
    · exact h
    · exact h
  | deleteUser hdelete =>
    obtain ⟨row, -, -, rfl⟩ := Accounts.deleteUser_spec hdelete
    exact h
  | theme htheme =>
    obtain rfl := Accounts.theme_spec htheme
    exact h
  | beginChangePassword _ => exact h
  | finishChangePassword _ hfinish =>
    obtain rfl := Accounts.finishChangePassword_spec hfinish
    exact h

/-- While the clock is not set back, any sixty seconds see at most 120 verified or refused
passwords, and at most 12 for one name since it last logged in. -/
theorem login_rate_limited {clock first : ℤ}
    (hrun : Transition.RunWith (ConsoleStep secrets) Forward (Console.init clock) s) :
    countIn (s.attempted "global") first (first + 60) ≤ 120 ∧
      ∀ name, countIn (s.attempted ("user:" ++ name)) first (first + 60) ≤ 12 := by
  have hlimited : Limited s :=
    hrun.invariant (fun _ _ _ h hstep hforward => h.step hstep hforward)
      fun _ => Counted.nil clock
  refine ⟨(hlimited "global").interval first, fun name => ?_⟩
  have hname := (hlimited ("user:" ++ name)).interval first
  rw [attemptLimit, if_neg (Accounts.userKey_ne_global name)] at hname
  exact hname

section Sample

/-- Passwords are their own hashes, and the digest of a token is its characters. -/
def sampleSecrets : Secrets where
  verifyPassword password hash := password == hash
  digest token := token.toList.map fun c => UInt8.ofNat c.toNat
  dummyHash := "dummy"

def sampleAdmin : UserRow := ⟨1, "admin", "admin", "admin", "admin", "dark", ""⟩

def sampleToken : String := "AAAAAAAAAAAAAAAAAAAAAAAAAAAAAAAAAAAAAAAAAAA"

/-- The administrator's password has been verified. -/
def sampleLogin : Console where
  accounts := ⟨[sampleAdmin], [], Function.update (Function.update (fun _ => expire 60 1000 none)
    "global" (some ⟨1000, 1⟩)) ("user:" ++ "admin") (some ⟨1000, 1⟩)⟩
  clock := 1000
  logins := [⟨1000, "admin", "admin", sampleAdmin, none⟩]
  changes := []
  opened := []
  attempted := (Console.init 1000).attempt "admin"

/-- The administrator has logged in. -/
def sampleConsole : Console where
  accounts := ⟨[sampleAdmin], [⟨sampleSecrets.digest sampleToken, 1, "csrf", 29800⟩],
    Function.update (Function.update (Function.update (fun _ => expire 60 1000 none) "global"
      (some ⟨1000, 1⟩)) ("user:" ++ "admin") (some ⟨1000, 1⟩)) ("user:" ++ "admin") none⟩
  clock := 1000
  logins := []
  changes := []
  opened := [⟨sampleSecrets.digest sampleToken, 1, "admin"⟩]
  attempted := Function.update ((Console.init 1000).attempt "admin") ("user:" ++ "admin") []

theorem sample_console_run :
    Transition.RunWith (ConsoleStep sampleSecrets) Forward (Console.init 1000) sampleConsole := by
  have hboot : (Console.init 1000).accounts.bootstrapDefaultAdmin "admin" =
      .ok ⟨[sampleAdmin], [], fun _ => none⟩ := by rfl
  have hbegin : Accounts.beginLogin ⟨[sampleAdmin], [], fun _ => none⟩ 1000 "admin" "admin" =
      .ok (⟨[sampleAdmin], [], Function.update (Function.update (fun _ => expire 60 1000 none)
        "global" (some ⟨1000, 1⟩)) ("user:" ++ "admin") (some ⟨1000, 1⟩)⟩, some sampleAdmin) := by
    rfl
  have hverified :
      Accounts.verified sampleSecrets "admin" (some sampleAdmin) = .ok sampleAdmin := by
    rfl
  have hfinish : Accounts.finishLogin ⟨[sampleAdmin], [], Function.update (Function.update
      (fun _ => expire 60 1000 none) "global" (some ⟨1000, 1⟩)) ("user:" ++ "admin")
        (some ⟨1000, 1⟩)⟩ sampleSecrets 1000 "admin" sampleAdmin none sampleToken "csrf" =
      .ok (sampleConsole.accounts,
        ⟨sampleAdmin.user, "csrf", sampleSecrets.digest sampleToken⟩) := by
    rfl
  have hpending : (⟨1000, "admin", "admin", sampleAdmin, none⟩ : PendingLogin) ∈
      [(⟨1000, "admin", "admin", sampleAdmin, none⟩ : PendingLogin)] := List.mem_cons_self
  have hstart : ConsoleStep sampleSecrets (Console.init 1000) .bootstrap
      { Console.init 1000 with accounts := ⟨[sampleAdmin], [], fun _ => none⟩ } := .bootstrap hboot
  have hlogin : ConsoleStep sampleSecrets
      { Console.init 1000 with accounts := ⟨[sampleAdmin], [], fun _ => none⟩ } .beginLogin
      sampleLogin := .loginVerified hbegin hverified
  have hopen : ConsoleStep sampleSecrets sampleLogin .finishLogin sampleConsole :=
    .finishLogin (s := sampleLogin) (p := ⟨1000, "admin", "admin", sampleAdmin, none⟩)
      hpending hfinish
  exact ((Transition.RunWith.refl.tail hstart fun _ h => nomatch h).tail hlogin
    fun _ h => nomatch h).tail hopen fun _ h => nomatch h

theorem session_current_sample : ∃ e ∈ sampleConsole.opened,
    e.tokenHash = sampleSecrets.digest sampleToken ∧ e.userId = 1 ∧
      ∃ u ∈ sampleConsole.accounts.users, u.user = sampleAdmin.user ∧
        sampleSecrets.verifyPassword e.password u.passwordHash = true := by
  have hsession : sampleConsole.accounts.session sampleSecrets sampleConsole.clock sampleToken =
      .ok ⟨sampleAdmin.user, "csrf", sampleSecrets.digest sampleToken⟩ := by rfl
  exact session_current sample_console_run.run hsession

theorem sessions_bounded_sample : (sampleConsole.accounts.sessions.map (·.tokenHash)).Nodup ∧
    (∀ t ∈ sampleConsole.accounts.sessions, ∃ u ∈ sampleConsole.accounts.users, u.id = t.userId) ∧
      ∀ id, (sampleConsole.accounts.sessions.filter (·.userId = id)).length ≤ 20 :=
  sessions_bounded sample_console_run.run

theorem always_administered_sample : sampleConsole.accounts.users = [] ∨
    ∃ u ∈ sampleConsole.accounts.users, u.role = "admin" :=
  always_administered sample_console_run.run

theorem login_rate_limited_sample :
    countIn (sampleConsole.attempted "global") 950 (950 + 60) ≤ 120 ∧
    ∀ name, countIn (sampleConsole.attempted ("user:" ++ name)) 950 (950 + 60) ≤ 12 :=
  login_rate_limited sample_console_run

end Sample

end DatabaseSync.Control
