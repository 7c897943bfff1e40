import Wlmio.Client.Machine
import Wlmio.Pywlmio.Requests

/-!
# Writes of the Python binding

The methods `write` and `configure` of the channel and module classes of `pywlmio.py`, behind
`_check_name`: assertions on the arguments, and one register access, or three that are gathered.
A gathered access is a task of its own, and the tasks are run in the order in which they are
given; one that raises does not keep the others from being made.

The arguments are integers. That of `t0` is `int(t0 * 100)`, in hundredths of a kelvin.
-/

namespace Wlmio.Pywlmio

open Wlmio.Client

/-- The arguments of a call of `Node.register_access`. -/
structure Access where
  name : List CodePoint
  regType : RegisterType
  value : List PyValue

/-- A `str` without surrogates. -/
def str (s : String) : List CodePoint := s.toList.map .char

/-- `"ch{}.output".format(ch)` and the like. -/
def channelReg (ch : Nat) (suffix : String) : List CodePoint := str ("ch" ++ toString ch ++ suffix)

def uint8Access (name : List CodePoint) (value : Int) : Access := ⟨name, .uint8, [.int value]⟩

def uint16Access (name : List CodePoint) (value : Int) : Access := ⟨name, .uint16, [.int value]⟩

/-! ## The methods

`none` is an `AssertionError`. -/

def vpe6030ChannelWrite (ch : Nat) (value : Int) : Option (List Access) :=
  if value = 0 ∨ value = 1 then some [uint8Access (channelReg ch ".output") value] else none

def vpe6040ChannelConfigure (ch : Nat) (mode : Int) : Option (List Access) :=
  if 0 ≤ mode ∧ mode ≤ 2 then some [uint8Access (channelReg ch ".mode") mode] else none

def vpe6050ChannelWrite (ch : Nat) (value : Int) : Option (List Access) :=
  some [uint16Access (channelReg ch ".output") value]

def vpe6050ChannelConfigure (ch : Nat) (mode : Int) : Option (List Access) :=
  if mode = 0 ∨ mode = 1 then some [uint8Access (channelReg ch ".mode") mode] else none

def vpe6060ChannelConfigure (ch : Nat) (mode polarity bias : Int) : Option (List Access) :=
  if (0 ≤ mode ∧ mode ≤ 2) ∧ (polarity = 0 ∨ polarity = 1) ∧ (0 ≤ bias ∧ bias ≤ 2) then
    some [uint8Access (channelReg ch ".bias") bias, uint8Access (channelReg ch ".polarity") polarity,
      uint8Access (channelReg ch ".mode") mode]
  else none

def vpe6070ChannelWrite (ch : Nat) (value : Int) : Option (List Access) :=
  some [uint16Access (channelReg ch ".output") value]

def vpe6080ChannelConfigure (ch : Nat) (enabled beta t0 : Int) : Option (List Access) :=
  if enabled = 0 ∨ enabled = 1 then
    some [uint8Access (channelReg ch ".enabled") enabled, uint16Access (channelReg ch ".beta") beta,
      uint16Access (channelReg ch ".t0") t0]
  else none

def vpe6090ChannelConfigure (ch : Nat) (t : Int) : Option (List Access) :=
  some [uint8Access (channelReg ch ".type") t]

def vpe6190ChannelConfigure (ch : Nat) (enable : Int) : Option (List Access) :=
  some [uint8Access (channelReg ch ".enabled") enable]

/-- `configure` of the module classes that have a sample interval. -/
def moduleConfigure (sampleInterval : Int) : Option (List Access) :=
  some [uint16Access (str "sample_interval") sampleInterval]

/-- A call of one of the methods; a channel has the number it was made with. -/
inductive Method where
  | vpe6030Write (ch : Nat) (value : Int)
  | vpe6040Configure (ch : Nat) (mode : Int)
  | vpe6050Write (ch : Nat) (value : Int)
  | vpe6050Configure (ch : Nat) (mode : Int)
  | vpe6060Configure (ch : Nat) (mode polarity bias : Int)
  | vpe6070Write (ch : Nat) (value : Int)
  | vpe6080Configure (ch : Nat) (enabled beta t0 : Int)
  | vpe6090Configure (ch : Nat) (t : Int)
  | vpe6190Configure (ch : Nat) (enable : Int)
  | configure (sampleInterval : Int)

def Method.accesses : Method → Option (List Access)
  | .vpe6030Write ch value => vpe6030ChannelWrite ch value
  | .vpe6040Configure ch mode => vpe6040ChannelConfigure ch mode
  | .vpe6050Write ch value => vpe6050ChannelWrite ch value
  | .vpe6050Configure ch mode => vpe6050ChannelConfigure ch mode
  | .vpe6060Configure ch mode polarity bias => vpe6060ChannelConfigure ch mode polarity bias
  | .vpe6070Write ch value => vpe6070ChannelWrite ch value
  | .vpe6080Configure ch enabled beta t0 => vpe6080ChannelConfigure ch enabled beta t0
  | .vpe6090Configure ch t => vpe6090ChannelConfigure ch t
  | .vpe6190Configure ch enable => vpe6190ChannelConfigure ch enable
  | .configure sampleInterval => moduleConfigure sampleInterval

/-- The accesses up to their futures, one after the other, and what each of them raises. -/
def makeAccesses (w : World) (nodeId : BitVec 8) (os : Nat → Os) (future : Nat) :
    List Access → Except Fault (World × List (Option RequestError))
  | [] => .ok (w, [])
  | a :: as => do
    let (w, e) ← nodeRegisterAccess w nodeId a.name (some a.regType) (some a.value) future (os 0)
    let (w, es) ← makeAccesses w nodeId (fun i => os (i + 1)) (future + 1) as
    .ok (w, e :: es)

end Wlmio.Pywlmio
