import EngineSdk.Netvar.Offsets

/-!
# The networked variables of entities

The entity wrappers read these networked variables, each named by its table and property.
`knownProps` lists the ones fetched ahead of time at startup, and `prefetchKnown` fetches them,
counting those that resolve.
-/

namespace EngineSdk.Entity

/-- The byte offset of an entity's renderable part. -/
def renderableOffset : Nat := 8

/-- The byte offset of an entity's networkable part. -/
def networkableOffset : Nat := 16

/-- The variables fetched ahead of time, as (table, property). -/
def knownProps : List (String × String) :=
  [("DT_BaseEntity", "m_iTeamNum"), ("DT_BaseEntity", "m_vecOrigin"),
    ("DT_BaseEntity", "m_fFlags"), ("DT_BaseEntity", "m_nModelIndex"),
    ("DT_BaseEntity", "m_hOwnerEntity"), ("DT_BaseEntity", "m_flSimulationTime"),
    ("DT_BasePlayer", "m_iHealth"), ("DT_BasePlayer", "m_lifeState"),
    ("DT_BasePlayer", "m_fFlags"), ("DT_BasePlayer", "m_nTickBase"),
    ("DT_BasePlayer", "m_vecViewOffset[0]"), ("DT_TFPlayer", "m_iClass"),
    ("DT_TFPlayer", "m_nPlayerCond"), ("DT_BaseObject", "m_iHealth"),
    ("DT_BaseObject", "m_iUpgradeLevel"), ("DT_BaseObject", "m_bBuilding"),
    ("DT_BaseObject", "m_iObjectType"), ("DT_BaseObject", "m_hBuilder"),
    ("DT_ObjectSentrygun", "m_iState"), ("DT_ObjectTeleporter", "m_iState")]

/-- Fetches the known variables through the engine; the number that resolved. -/
def prefetchKnown (head : Except Netvar.RecvPropError Netvar.Registry) : Netvar.Lookup Nat := do
  let results ← Netvar.prefetchVia head knownProps
  pure (results.filter (·.toBool)).length

end EngineSdk.Entity
