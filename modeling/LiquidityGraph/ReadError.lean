import LiquidityGraph.Text.Decimal
import LiquidityGraph.Text.Hex

/-! The ways in which a value read from text or from chain data can be refused. -/
namespace LiquidityGraph

inductive AddressFault where
  | unexpected (c : Char) (position : Nat)
  | length
  deriving DecidableEq, Repr

inductive WordFault where
  | digits (fault : Hex.Fault)
  | size (bytes : Nat) (raw : String)
  deriving DecidableEq, Repr

inductive ReadError where
  | overflow
  | address (fault : AddressFault)
  | word (fault : WordFault)
  | shortData (needed got : Nat)
  | tickOutOfRange (tick : Int)
  deriving DecidableEq, Repr

def AddressFault.message : AddressFault → String
  | .unexpected c position =>
    "Invalid character '" ++ String.singleton c ++ "' at position " ++ Decimal.ofNat position
  | .length => "Invalid input length"

def Hex.Fault.message : Hex.Fault → String
  | .oddLength => "Odd number of digits"
  | .unexpected byte position =>
    "Invalid character " ++ Hex.quoted byte ++ " at position " ++ Decimal.ofNat position

def WordFault.message : WordFault → String
  | .digits fault => fault.message
  | .size bytes raw => "expected 32 bytes, got " ++ Decimal.ofNat bytes ++ " (" ++ raw ++ ")"

def ReadError.message : ReadError → String
  | .overflow => "Overflow in conversion"
  | .address fault => "Invalid address: " ++ fault.message
  | .word fault => "Invalid hex: " ++ fault.message
  | .shortData needed got =>
    "Log data too short: needed " ++ Decimal.ofNat needed ++ " bytes, got " ++ Decimal.ofNat got
  | .tickOutOfRange tick => "Tick " ++ Decimal.ofInt tick ++ " outside the valid tick range"

end LiquidityGraph
