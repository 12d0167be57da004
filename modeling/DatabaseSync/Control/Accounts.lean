import DatabaseSync.ChangeEvent.Failure
import DatabaseSync.Library.Checked
import DatabaseSync.Library.FixedWindow
import DatabaseSync.Library.Text
import Mathlib.Data.List.Sort
import Mathlib.Logic.Function.Basic

/-! # Accounts and sessions of the console

The tables of users, sessions and login attempts, with the operations on them. Every function is
one statement or one transaction of the store. Hashing happens between two transactions, so a
login and a change of password each come in two halves, with what was read in between.
-/

namespace DatabaseSync.Control

open FixedWindow Text
open ChangeEvent (isControl)

inductive AccountError
  | invalid (message : String)
  | unauthorized
  | forbidden
  | notFound
  | conflict (message : String)
  | rateLimited
deriving DecidableEq, Repr

/-- A row of `users`. -/
structure UserRow where
  id : ℕ
  owner : String
  username : String
  passwordHash : String
  role : String
  theme : String
  note : String
deriving DecidableEq, Repr

/-- A user as the console shows it. -/
structure User where
  id : ℕ
  owner : String
  username : String
  role : String
  theme : String
  note : String
deriving DecidableEq, Repr

/-- `user_row` -/
def UserRow.user (row : UserRow) : User :=
  ⟨row.id, row.owner, row.username, row.role, row.theme, row.note⟩

/-- A row of `sessions`. -/
structure SessionRow where
  tokenHash : List UInt8
  userId : ℕ
  csrfToken : String
  expiresAt : ℤ
deriving DecidableEq, Repr

structure Session where
  user : User
  csrfToken : String
  tokenHash : List UInt8
deriving DecidableEq, Repr

/-- The tables, the users and the sessions in the order of their row ids. -/
structure Accounts where
  users : List UserRow
  sessions : List SessionRow
  loginAttempts : String → Option Window

/-- The password hashes and digests of the store. -/
structure Secrets where
  verifyPassword : String → String → Bool
  digest : String → List UInt8
  dummyHash : String

def sessionSeconds : ℤ := 8 * 60 * 60

/-! ## Input -/

def username (value : String) : Except AccountError Unit :=
  if ¬ (3 ≤ byteLength value ∧ byteLength value ≤ 64) ∨
      ¬ value.toList.all (fun c => isAsciiAlphanumeric c || c == '_' || c == '.' || c == '-') then
    throw (.invalid "账号需要 3–64 位字母、数字或 _ . -")
  else pure ()

def owner (value : String) : Except AccountError String :=
  let value := trim value
  if value.isEmpty ∨ 128 < byteLength value ∨ value.toList.any isControl then
    throw (.invalid "所有者需要 1–128 字节，且不能包含控制字符")
  else pure value

def note (value : String) : Except AccountError String :=
  let value := trim value
  if 500 < byteLength value ∨ value.toList.any isControl then
    throw (.invalid "备注不能超过 500 字节，且不能包含控制字符")
  else pure value

def validatePassword (password : String) : Except AccountError Unit :=
  if ¬ (12 ≤ byteLength password ∧ byteLength password ≤ 128) then
    throw (.invalid "登录密码需要 12–128 字节")
  else pure ()

/-! ## Users -/

namespace Accounts

variable (db : Accounts)

/-- `SELECT … FROM users WHERE id=?1` -/
def user (id : ℕ) : Option UserRow := db.users.find? fun u => u.id = id

def admin (id : ℕ) : Except AccountError Unit :=
  if (db.user id).map (·.role) ≠ some "admin" then throw .forbidden else pure ()

/-- SQLite gives a row the id after the greatest one. -/
def nextId : ℕ := (db.users.map (·.id)).foldr max 0 + 1

/-- A duplicate name breaks the constraint of the table. -/
def insertUser (owner username passwordHash role note : String) :
    Except AccountError (Accounts × User) := do
  if db.users.any fun u => u.username = username then
    throw (.conflict "名称重复，或记录仍有关联数据")
  let row : UserRow := ⟨db.nextId, owner, username, passwordHash, role, "dark", note⟩
  return ({ db with users := db.users ++ [row] }, row.user)

def insertInitialAdmin (name hash : String) : Except AccountError Accounts := do
  if db.users.length ≠ 0 then throw (.conflict "初始管理员已经存在")
  return (← db.insertUser name name hash "admin" "").1

def bootstrapDefaultAdmin (hash : String) : Except AccountError Accounts :=
  db.insertInitialAdmin "admin" hash

def bootstrapAdmin (name password hash : String) : Except AccountError Accounts := do
  username name
  validatePassword password
  db.insertInitialAdmin name hash

structure NewUser where
  owner : String
  username : String
  password : String
  role : String
  note : String

def createUser (actor : ℕ) (input : NewUser) (hash : String) :
    Except AccountError (Accounts × User) := do
  db.admin actor
  username input.username
  let owner ← owner input.owner
  let note ← note input.note
  validatePassword input.password
  if input.role ∉ ["admin", "viewer"] then throw (.invalid "角色只能是 admin 或 viewer")
  db.insertUser owner input.username hash input.role note

/-- `UPDATE users SET … WHERE id=?` -/
def setUser (id : ℕ) (change : UserRow → UserRow) : Accounts :=
  { db with users := db.users.map fun u => if u.id = id then change u else u }

/-- `DELETE FROM sessions WHERE user_id=?1` -/
def endSessions (id : ℕ) : Accounts :=
  { db with sessions := db.sessions.filter fun s => s.userId ≠ id }

/-- `update_user`; a new password comes with its hash and ends the user's sessions. -/
def updateUser (actor id : ℕ) (ownerText noteText : String) (password : Option (String × String)) :
    Except AccountError (Accounts × User) := do
  db.admin actor
  let owner ← owner ownerText
  let note ← note noteText
  if let some (password, _) := password then validatePassword password
  let db := match password with
    | some (_, hash) =>
      (db.setUser id fun u => { u with owner, note, passwordHash := hash }).endSessions id
    | none => db.setUser id fun u => { u with owner, note }
  let some row := db.user id | throw .notFound
  return (db, row.user)

/-- `DELETE FROM users WHERE id=?1`; the sessions of the user go with it. -/
def deleteUser (actor id : ℕ) : Except AccountError Accounts := do
  db.admin actor
  let some row := db.user id | throw .notFound
  if row.role = "admin" ∧ (db.users.filter (·.role = "admin")).length ≤ 1 then
    throw (.conflict "不能删除唯一管理员")
  if actor = id then throw (.conflict "不能删除当前登录账号")
  return { db.endSessions id with users := db.users.filter fun u => u.id ≠ id }

def theme (id : ℕ) (value : String) : Except AccountError (Accounts × User) := do
  if value ∉ ["dark", "light"] then throw (.invalid "外观只能是 dark 或 light")
  let db := db.setUser id fun u => { u with theme := value }
  let some row := db.user id | throw .unauthorized
  return (db, row.user)

/-! ## Sessions -/

/-- One more attempt under a name. -/
def countAttempt (time : ℤ) (attempts : String → Option Window) (key : String) (limit : ℕ) :
    Except AccountError (String → Option Window) :=
  match allow limit time (attempts key) with
  | none => throw .rateLimited
  | some window => pure (Function.update attempts key (some window))

/-- The first half of `login`: the attempt is counted and the user read. -/
def beginLogin (time : ℤ) (name password : String) :
    Except AccountError (Accounts × Option UserRow) := do
  if username name ≠ .ok () ∨ 128 < byteLength password then throw .unauthorized
  let attempts := fun key => expire 60 time (db.loginAttempts key)
  let sessions := db.sessions.filter fun s => time < s.expiresAt
  let attempts ← countAttempt time attempts "global" 60
  let attempts ← countAttempt time attempts ("user:" ++ name) 6
  return ({ db with sessions, loginAttempts := attempts }, db.users.find? (·.username = name))

/-- The password is verified outside of the database, against a dummy where there is no user. -/
def verified (secrets : Secrets) (password : String) (stored : Option UserRow) :
    Except AccountError UserRow :=
  if !secrets.verifyPassword password ((stored.map (·.passwordHash)).getD secrets.dummyHash) then
    throw .unauthorized
  else
    match stored with
    | none => throw .unauthorized
    | some user => pure user

/-- `DELETE FROM sessions WHERE user_id=?1 AND token_hash NOT IN (… ORDER BY expires_at DESC,
rowid DESC LIMIT 20)` -/
def boundSessions (id : ℕ) (sessions : List SessionRow) : List SessionRow :=
  let newest := ((sessions.filter (·.userId = id)).reverse.insertionSort
    fun s t => t.expiresAt ≤ s.expiresAt).take 20
  sessions.filter fun s => s.userId ≠ id ∨ s.tokenHash ∈ newest.map (·.tokenHash)

/-- The second half of `login`, for a user that was read at `time` and whose password has been
verified. -/
def finishLogin (secrets : Secrets) (time : ℤ) (name : String) (row : UserRow)
    (oldToken : Option String) (token csrfToken : String) :
    Except AccountError (Accounts × Session) := do
  if !db.users.any fun u => u.id = row.id ∧ u.passwordHash = row.passwordHash then
    throw .unauthorized
  let sessions := match oldToken with
    | some old => db.sessions.filter fun s => s.tokenHash ≠ secrets.digest old
    | none => db.sessions
  if sessions.any fun s => s.tokenHash = secrets.digest token then
    throw (.conflict "名称重复，或记录仍有关联数据")
  let sessions := boundSessions row.id
    (sessions ++ [⟨secrets.digest token, row.id, csrfToken, time + sessionSeconds⟩])
  let loginAttempts := Function.update db.loginAttempts ("user:" ++ name) none
  return ({ db with sessions, loginAttempts }, ⟨row.user, csrfToken, secrets.digest token⟩)

def session (secrets : Secrets) (time : ℤ) (token : String) : Except AccountError Session := do
  if byteLength token ≠ 43 then throw .unauthorized
  let some row := db.sessions.find? fun s =>
    s.tokenHash = secrets.digest token ∧ time < s.expiresAt | throw .unauthorized
  let some user := db.user row.userId | throw .unauthorized
  return ⟨user.user, row.csrfToken, secrets.digest token⟩

def logout (tokenHash : List UInt8) : Accounts :=
  { db with sessions := db.sessions.filter fun s => s.tokenHash ≠ tokenHash }

/-! ## Passwords -/

/-- The first half of `change_password`: the old password is verified against the stored hash. -/
def beginChangePassword (secrets : Secrets) (id : ℕ) (old new : String) :
    Except AccountError String := do
  validatePassword new
  if 128 < byteLength old then throw .unauthorized
  let some row := db.user id | throw .unauthorized
  if !secrets.verifyPassword old row.passwordHash then throw .unauthorized
  return row.passwordHash

/-- The second half of `change_password`. -/
def finishChangePassword (id : ℕ) (oldHash hash : String) : Except AccountError Accounts := do
  if (db.user id).map (·.passwordHash) ≠ some oldHash then
    throw (.conflict "账号已发生变化，请重新登录")
  return (db.setUser id fun u => { u with passwordHash := hash }).endSessions id

/-! ## What a successful operation does -/

section Spec

open Checked

variable {db db' : Accounts} {secrets : Secrets} {row : UserRow} {stored : Option UserRow}
  {result : User} {answer : Session} {actor id : ℕ} {time : ℤ}
  {name password hash oldHash ownerText username noteText role token csrfToken : String}

theorem user_eq_some (h : db.user id = some row) : row ∈ db.users ∧ row.id = id := by
  have hfound := List.find?_some h
  exact ⟨List.mem_of_find?_eq_some h, by simpa using hfound⟩

theorem insertUser_spec
    (h : db.insertUser ownerText username hash role noteText = .ok (db', result)) :
    ∃ row, row.id = db.nextId ∧ row.role = role ∧ db' = { db with users := db.users ++ [row] } := by
  unfold insertUser at h
  simp only [throw_eq, error_bind, guard_eq_ok, pure_eq, Except.ok.injEq, Prod.mk.injEq] at h
  obtain ⟨-, rfl, -⟩ := h
  exact ⟨_, rfl, rfl, rfl⟩

theorem admin_spec (h : db.admin actor = .ok ()) : ∃ u ∈ db.users, u.role = "admin" := by
  unfold admin at h
  rw [throw_eq, pure_eq, guard_eq_ok, not_not, Option.map_eq_some_iff] at h
  obtain ⟨⟨u, hu, hrole⟩, -⟩ := h
  exact ⟨u, (user_eq_some hu).1, hrole⟩

theorem createUser_spec {input : NewUser}
    (h : db.createUser actor input hash = .ok (db', result)) :
    (∃ u ∈ db.users, u.role = "admin") ∧
      ∃ row, row.id = db.nextId ∧ db' = { db with users := db.users ++ [row] } := by
  unfold createUser at h
  simp only [throw_eq, error_bind, bind_eq_ok, guard_eq_ok] at h
  obtain ⟨_, hadmin, _, -, _, -, _, -, _, -, -, h⟩ := h
  obtain ⟨row, hid, -, rfl⟩ := insertUser_spec h
  exact ⟨admin_spec hadmin, row, hid, rfl⟩

/-- The change of the row keeps its id and role, and the password or the sessions go. -/
theorem updateUser_spec {newPassword : Option (String × String)}
    (h : db.updateUser actor id ownerText noteText newPassword = .ok (db', result)) :
    ∃ change : UserRow → UserRow, (∀ u, (change u).id = u.id ∧ (change u).role = u.role) ∧
      ((∀ u, (change u).passwordHash = u.passwordHash) ∧ db' = db.setUser id change ∨
        db' = (db.setUser id change).endSessions id) := by
  unfold updateUser at h
  simp only [throw_eq, bind_eq_ok] at h
  obtain ⟨_, -, owner, -, note, -, h⟩ := h
  cases newPassword with
  | none =>
    dsimp only at h
    split at h
    · cases h
      exact ⟨fun u => { u with owner, note }, fun _ => ⟨rfl, rfl⟩, .inl ⟨fun _ => rfl, rfl⟩⟩
    · cases h
  | some new =>
    dsimp only at h
    obtain ⟨_, -, h⟩ := bind_eq_ok.mp h
    split at h
    · cases h
      exact ⟨fun u => { u with owner, note, passwordHash := new.2 }, fun _ => ⟨rfl, rfl⟩,
        .inr rfl⟩
    · cases h

theorem deleteUser_spec (h : db.deleteUser actor id = .ok db') :
    ∃ row, db.user id = some row ∧
      (row.role = "admin" → 1 < (db.users.filter (·.role = "admin")).length) ∧
      db' = { db.endSessions id with users := db.users.filter fun u => u.id ≠ id } := by
  unfold deleteUser at h
  cases hrow : db.user id with
  | none => simp [hrow] at h
  | some row =>
    simp only [hrow, throw_eq, error_bind, bind_eq_ok, guard_eq_ok, pure_eq, Except.ok.injEq] at h
    obtain ⟨_, -, hlast, -, rfl⟩ := h
    exact ⟨row, rfl, fun hrole => by simpa [hrole] using hlast, rfl⟩

theorem theme_spec {value : String} (h : db.theme id value = .ok (db', result)) :
    db' = db.setUser id fun u => { u with theme := value } := by
  unfold theme at h
  simp only [throw_eq, error_bind, guard_eq_ok] at h
  obtain ⟨-, h⟩ := h
  split at h
  · cases h
    rfl
  · cases h

theorem userKey_ne_global (name : String) : "user:" ++ name ≠ "global" := by
  intro heq
  have hlist := congrArg String.toList heq
  rw [String.toList_append] at hlist
  exact absurd (congrArg List.head? hlist) (by simp)

/-- The attempt is admitted for everybody and for the name. -/
theorem beginLogin_spec (h : db.beginLogin time name password = .ok (db', stored)) :
    ∃ everybody named, allow 60 time (expire 60 time (db.loginAttempts "global")) =
        some everybody ∧
      allow 6 time (expire 60 time (db.loginAttempts ("user:" ++ name))) = some named ∧
      db' = { db with
        sessions := db.sessions.filter fun s => time < s.expiresAt
        loginAttempts := Function.update (Function.update
          (fun key => expire 60 time (db.loginAttempts key)) "global" (some everybody))
          ("user:" ++ name) (some named) } := by
  unfold beginLogin countAttempt at h
  simp only [throw_eq, error_bind, guard_eq_ok, bind_eq_ok, pure_eq, Except.ok.injEq,
    Prod.mk.injEq] at h
  obtain ⟨-, _, heverybody, _, hnamed, rfl, -⟩ := h
  split at heverybody
  · cases heverybody
  · next everybody hallow =>
    cases heverybody
    split at hnamed
    · cases hnamed
    · next named hallowed =>
      cases hnamed
      rw [Function.update_of_ne (userKey_ne_global name)] at hallowed
      exact ⟨everybody, named, hallow, hallowed, rfl⟩

theorem verified_spec (h : verified secrets password stored = .ok row) :
    secrets.verifyPassword password row.passwordHash = true := by
  unfold verified at h
  rw [throw_eq, guard_eq_ok] at h
  obtain ⟨hverify, h⟩ := h
  cases stored with
  | none => cases h
  | some user =>
    cases h
    simpa using hverify

/-- The user still has the password that was verified, and the token is new. -/
theorem finishLogin_spec {oldToken : Option String}
    (h : db.finishLogin secrets time name row oldToken token csrfToken = .ok (db', answer)) :
    (∃ u ∈ db.users, u.id = row.id ∧ u.passwordHash = row.passwordHash) ∧
      answer.tokenHash = secrets.digest token ∧ answer.user.id = row.id ∧
      ∃ sessions, sessions.Sublist db.sessions ∧
        (∀ s ∈ sessions, s.tokenHash ≠ secrets.digest token) ∧
        db' = { db with
          sessions := boundSessions row.id
            (sessions ++ [⟨secrets.digest token, row.id, csrfToken, time + sessionSeconds⟩])
          loginAttempts := Function.update db.loginAttempts ("user:" ++ name) none } := by
  unfold finishLogin at h
  simp only [throw_eq, error_bind, guard_eq_ok, pure_eq, Except.ok.injEq, Prod.mk.injEq] at h
  obtain ⟨huser, hnew, rfl, rfl⟩ := h
  refine ⟨?_, rfl, rfl, _, ?_, ?_, rfl⟩
  · simpa using huser
  · cases oldToken with
    | none => exact List.Sublist.refl _
    | some old => exact List.filter_sublist
  · intro s hs heq
    exact hnew (List.any_eq_true.mpr ⟨s, hs, decide_eq_true heq⟩)

theorem finishChangePassword_spec (h : db.finishChangePassword id oldHash hash = .ok db') :
    db' = (db.setUser id fun u => { u with passwordHash := hash }).endSessions id := by
  unfold finishChangePassword at h
  simp only [throw_eq, error_bind, guard_eq_ok, pure_eq, Except.ok.injEq] at h
  exact h.2.symm

theorem session_spec (h : db.session secrets time token = .ok answer) :
    ∃ t ∈ db.sessions, t.tokenHash = secrets.digest token ∧ time < t.expiresAt ∧
      ∃ row, db.user t.userId = some row ∧ row.user = answer.user := by
  unfold session at h
  simp only [throw_eq, error_bind, guard_eq_ok] at h
  obtain ⟨-, h⟩ := h
  split at h
  · next t hfound =>
    split at h
    · next row hrow =>
      cases h
      have hmatch := List.find?_some hfound
      rw [decide_eq_true_eq] at hmatch
      exact ⟨t, List.mem_of_find?_eq_some hfound, hmatch.1, hmatch.2, row, hrow, rfl⟩
    · cases h
  · cases h

theorem insertInitialAdmin_spec (h : db.insertInitialAdmin name hash = .ok db') :
    ∃ row, row.id = db.nextId ∧ row.role = "admin" ∧
      db' = { db with users := db.users ++ [row] } := by
  unfold insertInitialAdmin at h
  simp only [throw_eq, error_bind, guard_eq_ok, bind_eq_ok, pure_eq, Except.ok.injEq] at h
  obtain ⟨-, ⟨db'', user⟩, hinsert, rfl⟩ := h
  exact insertUser_spec hinsert

theorem bootstrapAdmin_spec (h : db.bootstrapAdmin name password hash = .ok db') :
    ∃ row, row.id = db.nextId ∧ row.role = "admin" ∧
      db' = { db with users := db.users ++ [row] } := by
  unfold bootstrapAdmin at h
  obtain ⟨_, -, h⟩ := bind_eq_ok.mp h
  obtain ⟨_, -, h⟩ := bind_eq_ok.mp h
  exact insertInitialAdmin_spec h

end Spec

end Accounts

end DatabaseSync.Control
