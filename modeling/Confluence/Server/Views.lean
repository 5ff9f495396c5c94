import Confluence.Server.Routes

/-!
# Reading routes

The handlers that only read. Their transactions end without a commit, having changed nothing.
-/

namespace Confluence

open Program

/-- The row is read as by `lock_account`, which takes a lock besides. -/
def getAccountTx (accountId : Uuid) : Tx AccountView := do
  let row ← required .notFound (← sql (.selectAccountForUpdate accountId))
  return { id := accountId, status := row.status, equity := row.equity
           killSwitchEngaged := row.killSwitchEngaged }

def getAccount (accountId : Uuid) (db : Db) : Except ApiError AccountView × Db :=
  postgres.atomically (getAccountTx accountId) db

def getRiskConfigTx (accountId : Uuid) : Tx RiskConfigView := do
  let (config, version) ← loadRiskConfig accountId
  return { config, version }

def getRiskConfig (accountId : Uuid) (db : Db) : Except ApiError RiskConfigView × Db :=
  postgres.atomically (getRiskConfigTx accountId) db

def getExchangeConfigTx (accountId : Uuid) : Tx ExchangeConfigView := do
  let row ← required .notFound (← sql (.selectExchangeConfig accountId))
  return { mode := modeStr row.mode, testnet := row.testnet
           hasCredentials := row.apiKeyCiphertext.isSome, version := row.version }

def getExchangeConfig (accountId : Uuid) (db : Db) : Except ApiError ExchangeConfigView × Db :=
  postgres.atomically (getExchangeConfigTx accountId) db

end Confluence
