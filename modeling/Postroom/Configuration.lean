import Postroom.Poll
import Postroom.Text.Blank

/-!
# Configuration

Accounts and filters by the name of the account.  Configurations are put together one after another:
a later account takes the place of an earlier one of the same name as a whole, while filters are
added to those of the same account one by one.  Before it is used a configuration is completed: only
the accounts that are switched on are kept, each with its password and its mailboxes.
-/

namespace Postroom

/-- The mailbox that is meant where none is named. -/
def usualMailbox : String := "INBOX"

/-- An account. -/
structure Account where
  /-- Whether it is used. -/
  enabled : Bool
  /-- How its server is reached. -/
  connection : Settings
  /-- The mailbox that is sorted, if it is named. -/
  input : Option String
  /-- Where messages go that no filter matches, if it is named. -/
  fallback : Option String
deriving Repr, DecidableEq

namespace Account

/-- Nothing is set. -/
def empty : Account := ⟨false, Settings.empty, none, none⟩

/-- The mailbox that is sorted. -/
def inputMailbox (a : Account) : String :=
  match a.input with
  | some name => if name.isEmpty then usualMailbox else name
  | none => usualMailbox

/-- Where messages go that no filter matches.  The name may be empty. -/
def fallbackMailbox (a : Account) : String := a.fallback.getD usualMailbox

/-- The account with its mailboxes named, and with a password that was found for it. -/
def complete (name : String) (password : Option String) (a : Account) : Except Fault Account :=
  if Text.isBlankText a.connection.server then
    .error (.config ("server not configured for account " ++ name))
  else
    .ok { a with
      connection := { a.connection with password := password.getD a.connection.password }
      input := some a.inputMailbox
      fallback := some a.fallbackMailbox }

end Account

/-- Accounts and their filters. -/
structure Configuration where
  /-- The accounts by name. -/
  accounts : Assoc Account
  /-- The filters by name, by the name of the account. -/
  filters : Assoc (Assoc Filter)
deriving Repr, DecidableEq

namespace Configuration

/-- No accounts and no filters. -/
def empty : Configuration := ⟨[], []⟩

/-- Puts another configuration on top. -/
def merge (lower upper : Configuration) : Configuration where
  accounts := lower.accounts.extend upper.accounts
  filters := upper.filters.foldl (fun t (account, filters) =>
    t.insert account (Assoc.extend ((t.get? account).getD []) filters)) lower.filters

/-- Completes accounts that are switched on, up to the first that cannot be. -/
def completeAccounts (passwords : Assoc String) : Assoc Account → Except Fault (Assoc Account)
  | [] => .ok []
  | (name, a) :: rest =>
    if a.enabled then do
      let a ← a.complete name (passwords.get? name)
      return (name, a) :: (← completeAccounts passwords rest)
    else completeAccounts passwords rest

/-- Completes a configuration. -/
def complete (c : Configuration) (passwords : Assoc String) : Except Fault Configuration := do
  return { c with accounts := ← completeAccounts passwords c.accounts }

/-- The job of each account, up to the first without filters. -/
def jobsOf {World Handle : Type} (backend : Backend World Handle)
    (filters : Assoc (Assoc Filter)) : Assoc Account → Except Fault (List (Job World Handle))
  | [] => .ok []
  | (name, a) :: rest => do
    let own := (filters.get? name).getD []
    if own.isEmpty then throw (.config ("no filters configured for account " ++ name))
    let job : Job World Handle :=
      ⟨name, Session.new backend a.connection, a.inputMailbox, a.fallbackMailbox, own⟩
    return job :: (← jobsOf backend filters rest)

/-- The jobs of a configuration. -/
def jobs {World Handle : Type} (backend : Backend World Handle) (c : Configuration) :
    Except Fault (List (Job World Handle)) :=
  if c.accounts.isEmpty then .error (.config "no enabled accounts configured")
  else if c.filters.all fun e => e.2.isEmpty then .error (.config "no filters configured")
  else jobsOf backend c.filters c.accounts

end Configuration

end Postroom
