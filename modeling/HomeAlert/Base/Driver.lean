/-
  File:      HomeAlert/Base/Driver.lean
  Subject:   THE ZEPHYR SENSOR DRIVER OF THE BASE NODE (base_node/drivers/sensor_node/sensor_node.c,
             sensor_node.h): instance data, UART interrupt routine, and the operations
             sample_fetch, channel_get, attr_set, trigger_set of the sensor API.

  The kernel's semaphore, GPIO and UART calls are not under src/; they appear as their documented
  effect (`KSem`) or as an input that says what they returned. Array writes go through
  `Buffer.store`, so an out-of-bounds write would show as `none`.
-/
import HomeAlert.Library.Buffer
import HomeAlert.Library.Machine
import HomeAlert.Library.Word

namespace HomeAlert.Base

/-! ## 1. sensor_node.h -/

def sensorNodeFrameStart : UInt8 := 0xAA
def sensorNodeFrameEnd : UInt8 := 0x55
def sensorNodeFrameLen : UInt8 := 10

def sensorNodeCmdStart : UInt8 := 0xBB
def sensorNodeCmdEnd : UInt8 := 0x66

def sensorNodeCmdDistThresh : UInt8 := 0x01
def sensorNodeCmdTempMax : UInt8 := 0x02
def sensorNodeCmdSoundThresh : UInt8 := 0x03
def sensorNodeCmdHumMax : UInt8 := 0x04
def sensorNodeCmdHumMin : UInt8 := 0x05

/-- The channels the driver knows; every other channel id is `other`. -/
inductive SensorChannel where
  | ambientTemp | humidity | sound | distance | alarmStatus
  | other (id : Nat)
  deriving DecidableEq, Repr

/-- `enum sensor_node_attr`. -/
inductive SensorNodeAttr where
  | distThresh | tempMax | soundThresh | humMax | humMin
  deriving DecidableEq, Repr

/-- An attribute id: one of the driver's own or any other. -/
inductive SensorAttribute where
  | node (a : SensorNodeAttr)
  | other (id : Nat)
  deriving DecidableEq, Repr

/-- Zephyr's `struct sensor_value`: integer part and millionths. -/
structure SensorValue where
  val1 : Int32
  val2 : Int32
  deriving DecidableEq, Repr

/-- The negative results of the driver's operations. -/
inductive Errno where
  | eagain | enodev | enotsup
  deriving DecidableEq, Repr

/-- Zephyr's counting semaphore. -/
structure KSem where
  count : Nat
  limit : Nat
  deriving DecidableEq, Repr

/-- `k_sem_give`: one up, at most to the limit. -/
def KSem.give (s : KSem) : KSem :=
  { s with count := if s.count < s.limit then s.count + 1 else s.count }

/-- `k_sem_take` at the moment it decides: one down, or `none` (the wait timed out). -/
def KSem.take (s : KSem) : Option KSem :=
  if 0 < s.count then some { s with count := s.count - 1 } else none

/-! ## 2. Instance data -/

abbrev DataFrame := Vector UInt8 10

/-- A function pointer of type `sensor_trigger_handler_t`; a null pointer is `none` of these. -/
structure Handler where
  id : Nat
  deriving DecidableEq, Repr

/-- A `const struct device *`. -/
structure Device where
  id : Nat
  deriving DecidableEq, Repr

inductive SensorTriggerType where
  | threshold
  | other (id : Nat)
  deriving DecidableEq, Repr

structure SensorTrigger where
  type : SensorTriggerType
  chan : SensorChannel
  deriving DecidableEq, Repr

/-- `struct sensor_node_data`. -/
structure SensorNodeData where
  uartDev : Option Device
  rxBuf : Vector UInt8 10
  rxIdx : UInt8
  readyBuf : DataFrame
  frameSem : KSem
  temperature : Int16
  humidity : UInt16
  sound : UInt8
  distance : UInt16
  alarmStatus : UInt8
  triggerHandler : Option Handler
  triggerDev : Option Device
  trig : SensorTrigger
  deriving DecidableEq, Repr

/-- The instance data as `sensor_node_init` leaves the zeroed static structure: an idle receiver,
    and `frame_sem` at count 0 with limit 1. -/
def SensorNodeData.initial (uartDev : Device) : SensorNodeData where
  uartDev := some uartDev
  rxBuf := Vector.replicate 10 0
  rxIdx := 0
  readyBuf := Vector.replicate 10 0
  frameSem := { count := 0, limit := 1 }
  temperature := 0
  humidity := 0
  sound := 0
  distance := 0
  alarmStatus := 0
  triggerHandler := none
  triggerDev := none
  trig := { type := .other 0, chan := .other 0 }

/-! ## 3. sensor_node_uart_isr -/

/-- One byte read by the interrupt routine. The second result lists what this byte makes the
    routine copy to `ready_buf` and signal: nothing, or the block it completed. -/
def isrByte (data : SensorNodeData) (byte : UInt8) : Option (SensorNodeData × List DataFrame) :=
  if data.rxIdx = 0 then
    if byte = sensorNodeFrameStart then do
      let buf ← Buffer.store data.rxBuf 0 byte
      some ({ data with rxBuf := buf, rxIdx := 1 }, [])
    else some (data, [])
  else do
    let buf ← Buffer.store data.rxBuf data.rxIdx.toNat byte
    let data := { data with rxBuf := buf, rxIdx := data.rxIdx + 1 }
    if data.rxIdx = sensorNodeFrameLen then
      if byte = sensorNodeFrameEnd then
        some ({ data with readyBuf := data.rxBuf, frameSem := data.frameSem.give, rxIdx := 0 },
          [data.rxBuf])
      else some ({ data with rxIdx := 0 }, [])
    else some (data, [])

/-- One turn of the loop: `uart_fifo_read` gave a byte, or it gave none (`continue`). -/
def isrRead (data : SensorNodeData) : Option UInt8 → Option (SensorNodeData × List DataFrame)
  | none => some (data, [])
  | some byte => isrByte data byte

/-- One invocation: `reads` are the results of `uart_fifo_read` while `uart_irq_rx_ready`. -/
def sensorNodeUartIsr : SensorNodeData → List (Option UInt8) →
    Option (SensorNodeData × List DataFrame) :=
  Machine.run isrRead

/-! ## 4. sensor_node_sample_fetch, sensor_node_channel_get -/

/-- The assignments of `sensor_node_sample_fetch` behind a successful take, from the eight bytes
    `f[1]` .. `f[8]` as it read them. -/
def parseInto (data : SensorNodeData) (f1 f2 f3 f4 f5 f6 f7 f8 : UInt8) : SensorNodeData :=
  { data with
    temperature := Int16.ofInt (Word.join f1 f2)
    humidity := UInt16.ofNat (Word.join f3 f4)
    sound := f5
    distance := UInt16.ofNat (Word.join f6 f7)
    alarmStatus := f8 }

/-- The instance data with the fields parsed from a block. -/
def parseFrame (data : SensorNodeData) (f : DataFrame) : SensorNodeData :=
  parseInto data f[1] f[2] f[3] f[4] f[5] f[6] f[7] f[8]

/-- The five parsed fields. -/
structure Fields where
  temperature : Int16
  humidity : UInt16
  sound : UInt8
  distance : UInt16
  alarmStatus : UInt8
  deriving DecidableEq, Repr

def SensorNodeData.fields (data : SensorNodeData) : Fields where
  temperature := data.temperature
  humidity := data.humidity
  sound := data.sound
  distance := data.distance
  alarmStatus := data.alarmStatus

/-- The instance data with other parsed fields. -/
def SensorNodeData.withFields (data : SensorNodeData) (v : Fields) : SensorNodeData :=
  { data with
    temperature := v.temperature
    humidity := v.humidity
    sound := v.sound
    distance := v.distance
    alarmStatus := v.alarmStatus }

/-- The fields of a frame. -/
def frameFields (f : DataFrame) : Fields where
  temperature := Int16.ofInt (Word.join f[1] f[2])
  humidity := UInt16.ofNat (Word.join f[3] f[4])
  sound := f[5]
  distance := UInt16.ofNat (Word.join f[6] f[7])
  alarmStatus := f[8]

/-- `sensor_node_sample_fetch`, uninterrupted: the channel argument is unused. -/
def sensorNodeSampleFetch (data : SensorNodeData) (_chan : SensorChannel) :
    Except Errno Unit × SensorNodeData :=
  match data.frameSem.take with
  | none => (.error .eagain, data)
  | some sem =>
      let f := data.readyBuf
      (.ok (), parseInto { data with frameSem := sem } f[1] f[2] f[3] f[4] f[5] f[6] f[7] f[8])

/-- `sensor_node_channel_get`: what it writes to `*val`, or its error. -/
def sensorNodeChannelGet (data : SensorNodeData) : SensorChannel → Except Errno SensorValue
  | .ambientTemp => .ok
      { val1 := Int32.ofInt (data.temperature.toInt.tdiv 100)
        val2 := Int32.ofInt (data.temperature.toInt.tmod 100 * 10000) }
  | .humidity => .ok
      { val1 := Int32.ofInt ((data.humidity.toNat : Int).tdiv 100)
        val2 := Int32.ofInt ((data.humidity.toNat : Int).tmod 100 * 10000) }
  | .sound => .ok { val1 := Int32.ofInt data.sound.toNat, val2 := 0 }
  | .distance => .ok { val1 := Int32.ofInt data.distance.toNat, val2 := 0 }
  | .alarmStatus => .ok { val1 := Int32.ofInt data.alarmStatus.toNat, val2 := 0 }
  | .other _ => .error .enotsup

/-! ## 5. sensor_node_attr_set -/

/-- The command id and the raw word `sensor_node_attr_set` computes. The `int32` expressions are
    evaluated exactly: the casts keep 16 bits of them, which an overflow would not change. -/
def attrCommand (val : SensorValue) : SensorNodeAttr → UInt8 × UInt16
  | .distThresh => (sensorNodeCmdDistThresh, UInt16.ofInt val.val1.toInt)
  | .tempMax => (sensorNodeCmdTempMax,
      UInt16.ofInt (Int16.ofInt (val.val1.toInt * 100 + val.val2.toInt.tdiv 10000)).toInt)
  | .soundThresh => (sensorNodeCmdSoundThresh, UInt16.ofInt (val.val1 &&& 0x3F).toInt)
  | .humMax => (sensorNodeCmdHumMax,
      UInt16.ofInt (val.val1.toInt * 100 + val.val2.toInt.tdiv 10000))
  | .humMin => (sensorNodeCmdHumMin,
      UInt16.ofInt (val.val1.toInt * 100 + val.val2.toInt.tdiv 10000))

/-- The five bytes of a command frame. -/
def cmdFrame (cmd : UInt8) (raw : UInt16) : List UInt8 :=
  [sensorNodeCmdStart, cmd, Word.hi raw.toNat, Word.lo (raw.toNat &&& 0xFF : Nat), sensorNodeCmdEnd]

/-- `sensor_node_attr_set`: its result and the bytes it gives to `uart_poll_out`, in order. -/
def sensorNodeAttrSet (_chan : SensorChannel) (attr : SensorAttribute) (val : SensorValue) :
    Except Errno Unit × List UInt8 :=
  match attr with
  | .other _ => (.error .enotsup, [])
  | .node a =>
      let c := attrCommand val a
      (.ok (), cmdFrame c.1 c.2)

/-! ## 6. sensor_node_trigger_set, sensor_node_intr_gpio_cb -/

/-- The interrupt mode of the GPIO pin. -/
inductive GpioIntMode where
  | disabled
  | edgeRising
  deriving DecidableEq, Repr

/-- `struct sensor_node_config`: the UART and, if it is wired, the port of the interrupt line. -/
structure SensorNodeConfig where
  uartDev : Option Device
  intrGpioPort : Option Device
  deriving DecidableEq, Repr

/-- `gpio_pin_interrupt_configure_dt`: the mode is installed iff the GPIO driver accepts it. -/
def gpioPinInterruptConfigureDt (accepts : Bool) (mode old : GpioIntMode) : GpioIntMode :=
  if accepts then mode else old

/-- `sensor_node_trigger_set`: its result, the instance data and the pin's interrupt mode after
    it. The result of `gpio_pin_interrupt_configure_dt` is not looked at. -/
def sensorNodeTriggerSet (cfg : SensorNodeConfig) (accepts : Bool) (dev : Device)
    (data : SensorNodeData) (mode : GpioIntMode) (trig : SensorTrigger)
    (handler : Option Handler) : Except Errno Unit × SensorNodeData × GpioIntMode :=
  if trig.type ≠ .threshold then (.error .enotsup, data, mode)
  else if cfg.intrGpioPort = none then (.error .enodev, data, mode)
  else
    let data := { data with trig := trig, triggerDev := some dev, triggerHandler := handler }
    match handler with
    | some _ => (.ok (), data, gpioPinInterruptConfigureDt accepts .edgeRising mode)
    | none => (.ok (), data, gpioPinInterruptConfigureDt accepts .disabled mode)

/-- A call of the registered handler, with its two arguments. -/
structure HandlerCall where
  handler : Handler
  dev : Option Device
  trig : SensorTrigger
  deriving DecidableEq, Repr

/-- `sensor_node_intr_gpio_cb`: the handler calls it makes. -/
def sensorNodeIntrGpioCb (data : SensorNodeData) : List HandlerCall :=
  match data.triggerHandler with
  | some h => [{ handler := h, dev := data.triggerDev, trig := data.trig }]
  | none => []

end HomeAlert.Base
