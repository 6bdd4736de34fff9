import AuthFoundation.Lib.Text

set_option autoImplicit false

/-!
# The authentication tables

PostgreSQL on the schema of migration 001. Statements outside a transaction read committed rows.
A transaction is atomic; the second inserter of an external identity waits for the first and
fails with a unique violation if it commits. A commit without an answer stays in doubt.

* `Database`, `Transaction`: committed rows, open transactions and the rows they hold.
* `Statement`, `Database.exec`: the statements of the service; any of them can fail.
* `Database.Move`: what happens without the service.
-/

namespace AuthFoundation

open Text

/-- A row of `registered_web_services`. -/
structure RegisteredService where
  isEnabled : Bool
  loginCallbackUri : String
  logoutReturnUri : String
  serviceSecretSha256 : Bytes
  deriving DecidableEq

/-- An open transaction with the rows it inserted. -/
structure Transaction where
  users : List Int32
  identities : List ((String × String) × Int32)
  aborted : Bool
  inDoubt : Bool
  deriving DecidableEq

/-- The committed rows, the last identity value, the open transactions by client, and for each
external identity the client with an uncommitted row of it. -/
structure Database where
  internalUsers : Int32 → Option Bool
  externalIdentities : String × String → Option Int32
  registeredWebServices : String → Option RegisteredService
  sequence : ℕ
  transactions : ℕ → Option Transaction
  holder : String × String → Option ℕ

/-- No users and no identities. -/
def Database.empty (services : String → Option RegisteredService) : Database where
  internalUsers _ := none
  externalIdentities _ := none
  registeredWebServices := services
  sequence := 0
  transactions _ := none
  holder _ := none

/-- Errors of statements; `database` ones have a code and a constraint. -/
inductive SqlxError where
  | database (code constraint : Option String)
  | other
  deriving DecidableEq, Repr

/-- The statements of the service. -/
inductive Statement where
  | selectLoginCallbackUri (serviceId : String)
  | selectLogoutReturnUri (serviceId : String)
  | selectRegisteredService (serviceId : String)
  | selectInternalUser (internalUserId : Int32)
  | selectExternalIdentity (provider subject : String)
  | begin
  | insertInternalUser
  | insertExternalIdentity (provider subject : String) (internalUserId : Int32)
  | commit
  | rollback
  deriving DecidableEq

/-- The rows a statement returns. -/
abbrev Statement.Rows : Statement → Type
  | selectLoginCallbackUri _ => Option (Bool × String)
  | selectLogoutReturnUri _ => Option (Bool × String)
  | selectRegisteredService _ => Option (String × Bool × String × String × Bytes)
  | selectInternalUser _ => Option Bool
  | selectExternalIdentity _ _ => Option (Int32 × Option Bool)
  | begin => Unit
  | insertInternalUser => Int32
  | insertExternalIdentity _ _ _ => Unit
  | commit => Unit
  | rollback => Unit

instance : ∀ q : Statement, DecidableEq q.Rows
  | .selectLoginCallbackUri _ => inferInstanceAs (DecidableEq (Option (Bool × String)))
  | .selectLogoutReturnUri _ => inferInstanceAs (DecidableEq (Option (Bool × String)))
  | .selectRegisteredService _ =>
    have : DecidableEq (String × Bool × String × String × Bytes) := inferInstance
    inferInstanceAs (DecidableEq (Option _))
  | .selectInternalUser _ => inferInstanceAs (DecidableEq (Option Bool))
  | .selectExternalIdentity _ _ => inferInstanceAs (DecidableEq (Option (Int32 × Option Bool)))
  | .begin => inferInstanceAs (DecidableEq Unit)
  | .insertInternalUser => inferInstanceAs (DecidableEq Int32)
  | .insertExternalIdentity _ _ _ => inferInstanceAs (DecidableEq Unit)
  | .commit => inferInstanceAs (DecidableEq Unit)
  | .rollback => inferInstanceAs (DecidableEq Unit)

namespace Database

/-- Set the transaction of a client. -/
def setTransaction (db : Database) (i : ℕ) (tx : Option Transaction) : Database :=
  { db with transactions := Function.update db.transactions i tx }

/-- End the transaction of a client and drop what it holds. -/
def close (db : Database) (i : ℕ) : Database :=
  { db.setTransaction i none with
    holder := fun key => if db.holder key = some i then none else db.holder key }

/-- Make the rows of a transaction visible. -/
def publish (db : Database) (tx : Transaction) : Database :=
  { db with
    internalUsers := fun u => if u ∈ tx.users then some true else db.internalUsers u
    externalIdentities := fun key => (tx.identities.lookup key).or (db.externalIdentities key) }

/-- Commit: an aborted transaction is rolled back. -/
def finish (db : Database) (i : ℕ) (tx : Transaction) : Database :=
  if tx.aborted then db.close i else (db.publish tx).close i

/-- The error of a failing statement in an open transaction aborts it. -/
def abortStatement (db : Database) (i : ℕ) : Database :=
  match db.transactions i with
  | none => db
  | some tx => db.setTransaction i (some { tx with aborted := true })

/-- `external_identities_pkey`. -/
def uniqueViolation : SqlxError := .database (some "23505") (some "external_identities_pkey")

/-- The next identity value, if it is an `integer`. -/
def nextIdentity (db : Database) : Option Int32 :=
  if db.sequence + 1 < 2 ^ 31 then some (Int32.ofInt (db.sequence + 1)) else none

/-- **A statement** of client `i` that is answered; `none` if it waits or cannot succeed. -/
def exec (db : Database) (i : ℕ) : (q : Statement) → Option (Except SqlxError q.Rows × Database)
  | .selectLoginCallbackUri serviceId => some (.ok ((db.registeredWebServices serviceId).map
      fun row => (row.isEnabled, row.loginCallbackUri)), db)
  | .selectLogoutReturnUri serviceId => some (.ok ((db.registeredWebServices serviceId).map
      fun row => (row.isEnabled, row.logoutReturnUri)), db)
  | .selectRegisteredService serviceId => some (.ok ((db.registeredWebServices serviceId).map
      fun row => (serviceId, row.isEnabled, row.loginCallbackUri, row.logoutReturnUri,
        row.serviceSecretSha256)), db)
  | .selectInternalUser internalUserId => some (.ok (db.internalUsers internalUserId), db)
  | .selectExternalIdentity provider subject =>
    some (.ok ((db.externalIdentities (provider, subject)).map
      fun internalUserId => (internalUserId, db.internalUsers internalUserId)), db)
  | .begin => match db.transactions i with
    | none => some (.ok (), db.setTransaction i (some ⟨[], [], false, false⟩))
    | some _ => none
  | .insertInternalUser => match db.transactions i, db.nextIdentity with
    | some tx, some internalUserId =>
      if tx.aborted ∨ tx.inDoubt ∨ db.internalUsers internalUserId ≠ none then none
      else some (.ok internalUserId, { db with sequence := db.sequence + 1 }.setTransaction i
        (some { tx with users := internalUserId :: tx.users }))
    | _, _ => none
  | .insertExternalIdentity provider subject internalUserId => match db.transactions i with
    | some tx =>
      if tx.aborted ∨ tx.inDoubt ∨ provider = "" ∨ subject = "" ∨
        (internalUserId ∉ tx.users ∧ db.internalUsers internalUserId = none) then none
      else if db.externalIdentities (provider, subject) ≠ none ∨
        db.holder (provider, subject) = some i then
        some (.error uniqueViolation, db.abortStatement i)
      else if db.holder (provider, subject) ≠ none then none
      else some (.ok (), { db with
          holder := Function.update db.holder (provider, subject) (some i) }.setTransaction i
        (some { tx with identities := ((provider, subject), internalUserId) :: tx.identities }))
    | none => none
  | .commit => match db.transactions i with
    | some tx => if tx.inDoubt then none else some (.ok (), db.finish i tx)
    | none => none
  | .rollback => match db.transactions i with
    | some tx => if tx.inDoubt then none else some (.ok (), db.close i)
    | none => none

/-- **A statement that fails.** A failed commit leaves the transaction in doubt; a failed rollback
leaves it open; any other failure aborts it. -/
def execFail (db : Database) (i : ℕ) (q : Statement) : Except SqlxError q.Rows × Database :=
  (.error .other, match q with
    | .commit => match db.transactions i with
      | some tx => db.setTransaction i (some { tx with inDoubt := true })
      | none => db
    | .rollback => db
    | .insertInternalUser => db.abortStatement i
    | .insertExternalIdentity _ _ _ => db.abortStatement i
    | _ => db)

/-- What happens without the service: a transaction is cancelled, a commit in doubt takes effect,
a user is enabled or disabled, a service is registered, changed or removed. -/
inductive Move where
  | cancel (i : ℕ)
  | resolve (i : ℕ)
  | setUserEnabled (internalUserId : Int32) (isEnabled : Bool)
  | setService (serviceId : String) (row : Option RegisteredService)
  deriving DecidableEq

def move (db : Database) : Move → Option Database
  | .cancel i => match db.transactions i with
    | some _ => some (db.close i)
    | none => none
  | .resolve i => match db.transactions i with
    | some tx => if tx.inDoubt then some (db.finish i tx) else none
    | none => none
  | .setUserEnabled internalUserId isEnabled => match db.internalUsers internalUserId with
    | some _ => some { db with
        internalUsers := Function.update db.internalUsers internalUserId (some isEnabled) }
    | none => none
  | .setService serviceId row => some { db with
      registeredWebServices := Function.update db.registeredWebServices serviceId row }

end Database

end AuthFoundation
