import DeviceSetup.App.Event
import DeviceSetup.Bridge.Binary

/-!
# What the shell sends, in binary

Events and the answers to requests. Only events of the shell have a binary form, so that
nothing the shell sends can pass for the answer to a request.
-/

namespace DeviceSetup

open Binary

namespace WireFormat

/-- Writes a format. -/
def put : WireFormat → Bytes
  | .json => putVariant 0
  | .messagePack => putVariant 1

/-- Reads a format. -/
def get : Reader WireFormat := fun bs => do
  match ← getVariant 2 bs with
  | (0, rest) => return (.json, rest)
  | (_, rest) => return (.messagePack, rest)

end WireFormat

namespace ShellEvent

/-- Writes an edit of a field. -/
def putEdit (id : String) : Edit → Bytes
  | .input text => putVariant 1 ++ putText id ++ putText text
  | .checked b => putVariant 2 ++ putText id ++ putBool b
  | .choose index => putVariant 3 ++ putText id ++ putSize index
  | .networkText text => putVariant 4 ++ putText id ++ putText text
  | .pickNetwork index => putVariant 5 ++ putText id ++ putSize index

/-- Writes an event. -/
def put : ShellEvent → Bytes
  | .setUp settings format => putVariant 0 ++ putText settings ++ format.put
  | .reload => putVariant 1 ++ putVariant 0
  | .edit id e => putVariant 1 ++ putEdit id e
  | .save => putVariant 1 ++ putVariant 6
  | .startScanning => putVariant 2 ++ putVariant 0
  | .stopScanning => putVariant 2 ++ putVariant 1
  | .rescan => putVariant 2 ++ putVariant 2
  | .clearError => putVariant 3 ++ putVariant 0
  | .clearSuccess => putVariant 3 ++ putVariant 1

/-- Reads the id of a field and what is done to it. -/
def getEdit {α : Type} (get : Reader α) (edit : α → Edit) : Reader ShellEvent := fun bs => do
  let (id, bs) ← getText bs
  let (x, bs) ← get bs
  return (.edit id (edit x), bs)

/-- Reads an event of the form. -/
def getForm : Reader ShellEvent := fun bs => do
  match ← getVariant 7 bs with
  | (0, bs) => return (.reload, bs)
  | (1, bs) => getEdit getText .input bs
  | (2, bs) => getEdit getBool .checked bs
  | (3, bs) => getEdit getSize .choose bs
  | (4, bs) => getEdit getText .networkText bs
  | (5, bs) => getEdit getSize .pickNetwork bs
  | (_, bs) => return (.save, bs)

/-- Reads an event. -/
def get : Reader ShellEvent := fun bs => do
  match ← getVariant 4 bs with
  | (0, bs) =>
    let (settings, bs) ← getText bs
    let (format, bs) ← WireFormat.get bs
    return (.setUp settings format, bs)
  | (1, bs) => getForm bs
  | (2, bs) =>
    match ← getVariant 3 bs with
    | (0, bs) => return (.startScanning, bs)
    | (1, bs) => return (.stopScanning, bs)
    | (_, bs) => return (.rescan, bs)
  | (_, bs) =>
    match ← getVariant 2 bs with
    | (0, bs) => return (.clearError, bs)
    | (_, bs) => return (.clearSuccess, bs)

end ShellEvent

namespace TimerKind

/-- Writes a kind of timer. -/
def put : TimerKind → Bytes
  | .poll => putVariant 0
  | .saveTimeout => putVariant 1

/-- Reads a kind of timer. -/
def get : Reader TimerKind := fun bs => do
  match ← getVariant 2 bs with
  | (0, bs) => return (.poll, bs)
  | (_, bs) => return (.saveTimeout, bs)

end TimerKind

namespace TimerOutput

/-- Writes the output of a timer. -/
def put : TimerOutput → Bytes
  | .fired id kind => putVariant 0 ++ putSize id ++ kind.put
  | .cancelled id kind => putVariant 1 ++ putSize id ++ kind.put

/-- Reads the output of a timer. -/
def get : Reader TimerOutput := fun bs => do
  let (n, bs) ← getVariant 2 bs
  let (id, bs) ← getSize bs
  let (kind, bs) ← TimerKind.get bs
  return (if n = 0 then .fired id kind else .cancelled id kind, bs)

end TimerOutput

namespace Http

/-- Writes a header. -/
def Header.put (h : Header) : Bytes :=
  putText h.name ++ putText h.value

/-- Reads a header. -/
def Header.get : Reader Header := fun bs => do
  let (name, bs) ← getText bs
  let (value, bs) ← getText bs
  return (⟨name, value⟩, bs)

/-- What the shell may answer to a request: a response with a body, or the reason for none. -/
inductive Answer where
  | response (status : Nat) (headers : List Header) (body : Bytes)
  | url (why : String)
  | io (why : String)
  | timeout
  deriving Repr, DecidableEq

namespace Answer

/-- The outcome that the app sees. -/
def outcome : Answer → Outcome
  | .response status headers body => Response.outcome ⟨status, headers, some body⟩
  | .url why => .error (.url why)
  | .io why => .error (.io why)
  | .timeout => .error .timeout

/-- Writes an answer. -/
def put : Answer → Bytes
  | .response status headers body =>
    putVariant 0 ++ putNat 2 status ++ putList Header.put headers ++ putBytes body
  | .url why => putVariant 1 ++ putVariant 0 ++ putText why
  | .io why => putVariant 1 ++ putVariant 1 ++ putText why
  | .timeout => putVariant 1 ++ putVariant 2

/-- Reads an answer. -/
def get : Reader Answer := fun bs => do
  match ← getVariant 2 bs with
  | (0, bs) =>
    let (status, bs) ← getNat 2 bs
    let (headers, bs) ← getList Header.get bs
    let (body, bs) ← getBytes bs
    return (.response status headers body, bs)
  | (_, bs) =>
    match ← getVariant 3 bs with
    | (0, bs) =>
      let (why, bs) ← getText bs
      return (.url why, bs)
    | (1, bs) =>
      let (why, bs) ← getText bs
      return (.io why, bs)
    | (_, bs) => return (.timeout, bs)

end Answer

end Http

end DeviceSetup
