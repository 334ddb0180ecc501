import CameraPorting.Kernel.I2c
import CameraPorting.SensorImx219.Sensor

namespace CameraPorting.SensorImx219.RegisterLists

open CameraPorting.Kernel.Media
open CameraPorting.Kernel.I2c
open CameraPorting.SensorImx219.Sensor

structure Imx219Reg where
  address : U16
  val : U8
  deriving DecidableEq, Repr

def imx219RegModeSelect : U16 := 0x0100#16
def imx219RegAnalogGain : U16 := 0x0157#16
def imx219RegDigitalGain : U16 := 0x0158#16
def imx219RegExposure : U16 := 0x015a#16
def imx219RegVts : U16 := 0x0160#16
def imx219RegOrientation : U16 := 0x0172#16
def imx219RegTestPattern : U16 := 0x0600#16
def imx219RegTestpRed : U16 := 0x0602#16
def imx219RegTestpGreenr : U16 := 0x0604#16
def imx219RegTestpBlue : U16 := 0x0606#16
def imx219RegTestpGreenb : U16 := 0x0608#16

def imx219ModeStandby : U32 := 0
def imx219ModeStreaming : U32 := 1

def mode3280x2464Regs : List Imx219Reg :=
  [⟨0x0100#16, 0x00#8⟩, ⟨0x30eb#16, 0x0c#8⟩, ⟨0x30eb#16, 0x05#8⟩, ⟨0x300a#16, 0xff#8⟩,
    ⟨0x300b#16, 0xff#8⟩, ⟨0x30eb#16, 0x05#8⟩, ⟨0x30eb#16, 0x09#8⟩, ⟨0x0114#16, 0x01#8⟩,
    ⟨0x0128#16, 0x00#8⟩, ⟨0x012a#16, 0x18#8⟩, ⟨0x012b#16, 0x00#8⟩, ⟨0x0164#16, 0x00#8⟩,
    ⟨0x0165#16, 0x00#8⟩, ⟨0x0166#16, 0x0c#8⟩, ⟨0x0167#16, 0xcf#8⟩, ⟨0x0168#16, 0x00#8⟩,
    ⟨0x0169#16, 0x00#8⟩, ⟨0x016a#16, 0x09#8⟩, ⟨0x016b#16, 0x9f#8⟩, ⟨0x016c#16, 0x0c#8⟩,
    ⟨0x016d#16, 0xd0#8⟩, ⟨0x016e#16, 0x09#8⟩, ⟨0x016f#16, 0xa0#8⟩, ⟨0x0170#16, 0x01#8⟩,
    ⟨0x0171#16, 0x01#8⟩, ⟨0x0174#16, 0x00#8⟩, ⟨0x0175#16, 0x00#8⟩, ⟨0x0301#16, 0x05#8⟩,
    ⟨0x0303#16, 0x01#8⟩, ⟨0x0304#16, 0x03#8⟩, ⟨0x0305#16, 0x03#8⟩, ⟨0x0306#16, 0x00#8⟩,
    ⟨0x0307#16, 0x39#8⟩, ⟨0x030b#16, 0x01#8⟩, ⟨0x030c#16, 0x00#8⟩, ⟨0x030d#16, 0x72#8⟩,
    ⟨0x0624#16, 0x0c#8⟩, ⟨0x0625#16, 0xd0#8⟩, ⟨0x0626#16, 0x09#8⟩, ⟨0x0627#16, 0xa0#8⟩,
    ⟨0x455e#16, 0x00#8⟩, ⟨0x471e#16, 0x4b#8⟩, ⟨0x4767#16, 0x0f#8⟩, ⟨0x4750#16, 0x14#8⟩,
    ⟨0x4540#16, 0x00#8⟩, ⟨0x47b4#16, 0x14#8⟩, ⟨0x4713#16, 0x30#8⟩, ⟨0x478b#16, 0x10#8⟩,
    ⟨0x478f#16, 0x10#8⟩, ⟨0x4793#16, 0x10#8⟩, ⟨0x4797#16, 0x0e#8⟩, ⟨0x479b#16, 0x0e#8⟩,
    ⟨0x0162#16, 0x0d#8⟩, ⟨0x0163#16, 0x78#8⟩]

def mode1920x1080Regs : List Imx219Reg :=
  [⟨0x0100#16, 0x00#8⟩, ⟨0x30eb#16, 0x05#8⟩, ⟨0x30eb#16, 0x0c#8⟩, ⟨0x300a#16, 0xff#8⟩,
    ⟨0x300b#16, 0xff#8⟩, ⟨0x30eb#16, 0x05#8⟩, ⟨0x30eb#16, 0x09#8⟩, ⟨0x0114#16, 0x01#8⟩,
    ⟨0x0128#16, 0x00#8⟩, ⟨0x012a#16, 0x18#8⟩, ⟨0x012b#16, 0x00#8⟩, ⟨0x0162#16, 0x0d#8⟩,
    ⟨0x0163#16, 0x78#8⟩, ⟨0x0164#16, 0x02#8⟩, ⟨0x0165#16, 0xa8#8⟩, ⟨0x0166#16, 0x0a#8⟩,
    ⟨0x0167#16, 0x27#8⟩, ⟨0x0168#16, 0x02#8⟩, ⟨0x0169#16, 0xb4#8⟩, ⟨0x016a#16, 0x06#8⟩,
    ⟨0x016b#16, 0xeb#8⟩, ⟨0x016c#16, 0x07#8⟩, ⟨0x016d#16, 0x80#8⟩, ⟨0x016e#16, 0x04#8⟩,
    ⟨0x016f#16, 0x38#8⟩, ⟨0x0170#16, 0x01#8⟩, ⟨0x0171#16, 0x01#8⟩, ⟨0x0174#16, 0x00#8⟩,
    ⟨0x0175#16, 0x00#8⟩, ⟨0x0301#16, 0x05#8⟩, ⟨0x0303#16, 0x01#8⟩, ⟨0x0304#16, 0x03#8⟩,
    ⟨0x0305#16, 0x03#8⟩, ⟨0x0306#16, 0x00#8⟩, ⟨0x0307#16, 0x39#8⟩, ⟨0x030b#16, 0x01#8⟩,
    ⟨0x030c#16, 0x00#8⟩, ⟨0x030d#16, 0x72#8⟩, ⟨0x0624#16, 0x07#8⟩, ⟨0x0625#16, 0x80#8⟩,
    ⟨0x0626#16, 0x04#8⟩, ⟨0x0627#16, 0x38#8⟩, ⟨0x455e#16, 0x00#8⟩, ⟨0x471e#16, 0x4b#8⟩,
    ⟨0x4767#16, 0x0f#8⟩, ⟨0x4750#16, 0x14#8⟩, ⟨0x4540#16, 0x00#8⟩, ⟨0x47b4#16, 0x14#8⟩,
    ⟨0x4713#16, 0x30#8⟩, ⟨0x478b#16, 0x10#8⟩, ⟨0x478f#16, 0x10#8⟩, ⟨0x4793#16, 0x10#8⟩,
    ⟨0x4797#16, 0x0e#8⟩, ⟨0x479b#16, 0x0e#8⟩, ⟨0x0162#16, 0x0d#8⟩, ⟨0x0163#16, 0x78#8⟩]

def mode1640x1232Regs : List Imx219Reg :=
  [⟨0x0100#16, 0x00#8⟩, ⟨0x30eb#16, 0x0c#8⟩, ⟨0x30eb#16, 0x05#8⟩, ⟨0x300a#16, 0xff#8⟩,
    ⟨0x300b#16, 0xff#8⟩, ⟨0x30eb#16, 0x05#8⟩, ⟨0x30eb#16, 0x09#8⟩, ⟨0x0114#16, 0x01#8⟩,
    ⟨0x0128#16, 0x00#8⟩, ⟨0x012a#16, 0x18#8⟩, ⟨0x012b#16, 0x00#8⟩, ⟨0x0164#16, 0x00#8⟩,
    ⟨0x0165#16, 0x00#8⟩, ⟨0x0166#16, 0x0c#8⟩, ⟨0x0167#16, 0xcf#8⟩, ⟨0x0168#16, 0x00#8⟩,
    ⟨0x0169#16, 0x00#8⟩, ⟨0x016a#16, 0x09#8⟩, ⟨0x016b#16, 0x9f#8⟩, ⟨0x016c#16, 0x06#8⟩,
    ⟨0x016d#16, 0x68#8⟩, ⟨0x016e#16, 0x04#8⟩, ⟨0x016f#16, 0xd0#8⟩, ⟨0x0170#16, 0x01#8⟩,
    ⟨0x0171#16, 0x01#8⟩, ⟨0x0174#16, 0x01#8⟩, ⟨0x0175#16, 0x01#8⟩, ⟨0x0301#16, 0x05#8⟩,
    ⟨0x0303#16, 0x01#8⟩, ⟨0x0304#16, 0x03#8⟩, ⟨0x0305#16, 0x03#8⟩, ⟨0x0306#16, 0x00#8⟩,
    ⟨0x0307#16, 0x39#8⟩, ⟨0x030b#16, 0x01#8⟩, ⟨0x030c#16, 0x00#8⟩, ⟨0x030d#16, 0x72#8⟩,
    ⟨0x0624#16, 0x06#8⟩, ⟨0x0625#16, 0x68#8⟩, ⟨0x0626#16, 0x04#8⟩, ⟨0x0627#16, 0xd0#8⟩,
    ⟨0x455e#16, 0x00#8⟩, ⟨0x471e#16, 0x4b#8⟩, ⟨0x4767#16, 0x0f#8⟩, ⟨0x4750#16, 0x14#8⟩,
    ⟨0x4540#16, 0x00#8⟩, ⟨0x47b4#16, 0x14#8⟩, ⟨0x4713#16, 0x30#8⟩, ⟨0x478b#16, 0x10#8⟩,
    ⟨0x478f#16, 0x10#8⟩, ⟨0x4793#16, 0x10#8⟩, ⟨0x4797#16, 0x0e#8⟩, ⟨0x479b#16, 0x0e#8⟩,
    ⟨0x0162#16, 0x0d#8⟩, ⟨0x0163#16, 0x78#8⟩]

def mode640x480Regs : List Imx219Reg :=
  [⟨0x0100#16, 0x00#8⟩, ⟨0x30eb#16, 0x05#8⟩, ⟨0x30eb#16, 0x0c#8⟩, ⟨0x300a#16, 0xff#8⟩,
    ⟨0x300b#16, 0xff#8⟩, ⟨0x30eb#16, 0x05#8⟩, ⟨0x30eb#16, 0x09#8⟩, ⟨0x0114#16, 0x01#8⟩,
    ⟨0x0128#16, 0x00#8⟩, ⟨0x012a#16, 0x18#8⟩, ⟨0x012b#16, 0x00#8⟩, ⟨0x0162#16, 0x0d#8⟩,
    ⟨0x0163#16, 0x78#8⟩, ⟨0x0164#16, 0x03#8⟩, ⟨0x0165#16, 0xe8#8⟩, ⟨0x0166#16, 0x08#8⟩,
    ⟨0x0167#16, 0xe7#8⟩, ⟨0x0168#16, 0x02#8⟩, ⟨0x0169#16, 0xf0#8⟩, ⟨0x016a#16, 0x06#8⟩,
    ⟨0x016b#16, 0xaf#8⟩, ⟨0x016c#16, 0x02#8⟩, ⟨0x016d#16, 0x80#8⟩, ⟨0x016e#16, 0x01#8⟩,
    ⟨0x016f#16, 0xe0#8⟩, ⟨0x0170#16, 0x01#8⟩, ⟨0x0171#16, 0x01#8⟩, ⟨0x0174#16, 0x03#8⟩,
    ⟨0x0175#16, 0x03#8⟩, ⟨0x0301#16, 0x05#8⟩, ⟨0x0303#16, 0x01#8⟩, ⟨0x0304#16, 0x03#8⟩,
    ⟨0x0305#16, 0x03#8⟩, ⟨0x0306#16, 0x00#8⟩, ⟨0x0307#16, 0x39#8⟩, ⟨0x030b#16, 0x01#8⟩,
    ⟨0x030c#16, 0x00#8⟩, ⟨0x030d#16, 0x72#8⟩, ⟨0x0624#16, 0x06#8⟩, ⟨0x0625#16, 0x68#8⟩,
    ⟨0x0626#16, 0x04#8⟩, ⟨0x0627#16, 0xd0#8⟩, ⟨0x455e#16, 0x00#8⟩, ⟨0x471e#16, 0x4b#8⟩,
    ⟨0x4767#16, 0x0f#8⟩, ⟨0x4750#16, 0x14#8⟩, ⟨0x4540#16, 0x00#8⟩, ⟨0x47b4#16, 0x14#8⟩,
    ⟨0x4713#16, 0x30#8⟩, ⟨0x478b#16, 0x10#8⟩, ⟨0x478f#16, 0x10#8⟩, ⟨0x4793#16, 0x10#8⟩,
    ⟨0x4797#16, 0x0e#8⟩, ⟨0x479b#16, 0x0e#8⟩]

def raw8FramefmtRegs : List Imx219Reg :=
  [⟨0x018c#16, 0x08#8⟩, ⟨0x018d#16, 0x08#8⟩, ⟨0x0309#16, 0x08#8⟩]

def raw10FramefmtRegs : List Imx219Reg :=
  [⟨0x018c#16, 0x0a#8⟩, ⟨0x018d#16, 0x0a#8⟩, ⟨0x0309#16, 0x0a#8⟩]

/-- The field `reg_list` of an entry of `supported_modes`. -/
def imx219RegList (mode : Imx219Mode) : List Imx219Reg :=
  ((supportedModes.zip [mode3280x2464Regs, mode1920x1080Regs, mode1640x1232Regs,
    mode640x480Regs]).lookup mode).getD []

end CameraPorting.SensorImx219.RegisterLists
