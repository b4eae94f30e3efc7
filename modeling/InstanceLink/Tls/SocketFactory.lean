import InstanceLink.Fetch.Wait
import InstanceLink.Tls.Context

/-!
# Connecting

A socket factory opens secure sockets to one instance with freshly fetched
credentials. A connection is opened only after the fetch, the context and the
address are there and the attempt was logged. It is closed again when putting the secure
transport over it fails as the operating system does, or once the transport has taken it over.
-/

namespace InstanceLink

/-- What a socket factory works for. -/
structure SocketFactory where
  instanceName : InstanceName
  addressKind : AddressKind
  key : ClientKey

/-- What putting the secure transport over an open connection comes to. -/
inductive Wrapping where
  /-- The transport has the connection. -/
  | done
  /-- A fault is raised while the connection is still its caller's. -/
  | refused (fault : Fault)
  /-- A fault is raised once the transport has taken the connection over. It closes the connection
  then, whatever the fault. -/
  | failed (fault : Fault)

namespace Wrapping

/-- The fault that is raised, if one is. -/
def fault? : Wrapping → Option Fault
  | .done => none
  | .refused fault | .failed fault => some fault

/-- A fault of which nothing else is told is raised at once. -/
def ofFault? : Option Fault → Wrapping
  | none => .done
  | some fault => .refused fault

end Wrapping

instance : Coe (Option Fault) Wrapping := ⟨Wrapping.ofFault?⟩

/-- How the socket layer behaves. -/
structure SocketLayer where
  /-- The fault that opening a connection raises. -/
  openFault : Option Fault
  /-- What becomes of an open connection. -/
  wrapping : Wrapping

/-- What happens while connecting, over the contexts in use. -/
inductive ConnectEvent (Context : Type) where
  | prepared (context : Context)
  | opened (host : String) (port : Nat) (timeout : Timeout)
  | wrapped (host : String)
  | closed

/-- The outcome of connecting. -/
structure Connection (Context : Type) where
  fetcher : Fetcher
  events : List (ConnectEvent Context)
  /-- The log records of this attempt. -/
  records : List LogRecord
  /-- Success, a fault, or nothing when the fetch is waited for without end. -/
  outcome : Option (Except Fault Unit)

namespace SocketFactory

/-- The port on which instances accept secure connections. -/
def port : Nat := 5433

/-- The record written before a connection is opened. -/
def connectingRecord (f : SocketFactory) (host : String) : LogRecord :=
  ⟨.debug, "Connecting to " ++ f.instanceName.text ++ " at " ++ host ++ ":" ++ toString port⟩

/-- The stage behind an address: open the connection and put the secure transport
over it. -/
def openSecure {Context : Type} (layer : SocketLayer) (host : String) (timeout : Timeout) :
    List (ConnectEvent Context) × Except Fault Unit :=
  let opened := ConnectEvent.opened host port timeout
  match layer.openFault with
  | some fault => ([opened], .error fault)
  | none =>
    match layer.wrapping with
    | .done => ([opened, .wrapped host], .ok ())
    | .refused fault =>
      if fault.isSystem then ([opened, .wrapped host, .closed], .error fault)
      else ([opened, .wrapped host], .error fault)
    | .failed fault => ([opened, .wrapped host, .closed], .error fault)

/-- The stages behind a bundle: context, address, log call, connection. -/
def connectWith {Context : Type} (f : SocketFactory) (sink : LogSink) (layer : SocketLayer)
    (prepare : ConnectionInfo → Except Fault Context) (info : ConnectionInfo)
    (timeout : Timeout) : List (ConnectEvent Context) × List LogRecord × Except Fault Unit :=
  match prepare info with
  | .error fault => ([], [], .error fault)
  | .ok context =>
    match info.addressFor f.addressKind with
    | .error fault => ([.prepared context], [], .error fault)
    | .ok host =>
      let record := f.connectingRecord host
      match sink.fault? record with
      | some fault => ([.prepared context], [record], .error fault)
      | none =>
        let (events, outcome) := openSecure layer host timeout
        (.prepared context :: events, [record], outcome)

/-- Connect: fetch, then go through the stages. -/
def connect {Context : Type} (f : SocketFactory) (layer : SocketLayer)
    (prepare : ConnectionInfo → Except Fault Context) (x : Fetcher) (timeout : Timeout) :
    Connection Context :=
  let before := x.session.log.length
  let sink := x.session.sink
  let (x, waited) := x.fetchAndWait f.instanceName f.key timeout
  let fetched := x.session.log.drop before
  match waited with
  | none => ⟨x, [], fetched, none⟩
  | some (.error fault) => ⟨x, [], fetched, some (.error fault)⟩
  | some (.ok info) =>
    let (events, records, outcome) := f.connectWith sink layer prepare info timeout
    ⟨x, events, fetched ++ records, some outcome⟩

/-- The context of a factory's own key for a bundle. -/
def ownContext (f : SocketFactory) (info : ConnectionInfo) : Except Fault TlsContext :=
  match f.key with
  | .error fault => .error fault
  | .ok key => TlsContext.create info key

end SocketFactory

end InstanceLink
