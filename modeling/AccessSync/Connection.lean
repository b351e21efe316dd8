import AccessSync.Connector
import AccessSync.Http.Exchange

/-!
# Connections

A usable configuration gives everything that operations need: the settings of the connector, the
client that turns questions into requests, and the agent that carries the requests out.
-/

namespace AccessSync

/-- A connector with its way to the server. -/
structure Connection where
  connector : Connector
  client : Api.Client
  agent : Http.Agent
deriving Repr

namespace Connection

/-- The connection of a configuration; an unusable one gives none. -/
def ofConfig (c : Config) : Except Failure Connection :=
  match c.validate with
  | .error e => .error (Fault.configuration e.message).failure
  | .ok () =>
    match Http.Agent.ofConfig c, Api.Client.ofConfig c with
    | .error f, _ => .error f.failure
    | .ok _, .error f => .error f.failure
    | .ok agent, .ok client => .ok ⟨.ofConfig c, client, agent⟩

/-- A plan that asks endpoints, as a plan that exchanges messages; `embed` makes a note of what the
agent tells. -/
def carry {N α : Type} (c : Connection) (embed : Event → N)
    (work : Plan N Api.Endpoint.Reply α) :
    StateT (Option Http.Token) (Plan N Http.Wire.Reply) α :=
  (work.run c.client.handler).run (c.agent.handler embed)

end Connection

end AccessSync
