import PhoneAudio.Routing.Tables

/-!
# The stock codec

The tables of the stock codec with its external amplifier. The order of the pins of an endpoint
matters: multiplexers are set after the switches that feed them.
-/

namespace PhoneAudio

namespace Stock

def micAmp : String := "Mic Amp Capture Volume"

def modemSend : String := "GSM Send Switch"

def modemReceive : String := "GSM Receive Switch"

def lineInput4 : String := "Line Input 4 Differential"

/-- Switches that are on while their endpoint is in use. -/
def switches (controls : List String) : List Pin :=
  controls.map fun control => .toggle control true

/-- The two input multiplexers, which stay where they are afterwards. -/
def inputMuxes (right left : String) : List Pin :=
  [.choose "RIN MUX" right none, .choose "LIN MUX" left none]

/-- The pins that are set when the mixer is opened. -/
def initial : List Pin :=
  switches ["Line Output 1 Differential", "Line Output 3 Differential"] ++
    [.level "DATT-B DATT-B" 0 0, .level "DATT-B DATT-B" 231 0, .choose "BVMX Mux" "PCM-A" none,
      .choose "SDOA Mux" "SRC-A" none]

/-- The wiring of ordinary capture. -/
def capture : List Wiring :=
  [{ endpoint := .mainMic
     pins := switches ["Line Input 1 Differential", "Main Mic Switch"] ++
       inputMuxes "RIN2" "LIN1" ++ [.level micAmp 13 0] },
   { endpoint := .backMic
     pins := switches ["Line Input 2 Differential", "Sub Mic Switch"] ++
       inputMuxes "RIN2" "LIN1" ++ [.level micAmp 9 0] },
   { endpoint := .headsetMic
     pins := switches ["Line Input 3 Differential", "Jack Mic Switch"] ++
       inputMuxes "RIN2" "LIN3" ++ [.level micAmp 9 0] },
   { endpoint := .phoneIn
     pins := switches [lineInput4, "Main Mic Switch"] ++
       inputMuxes "RIN4" "LIN1" ++ [.level micAmp 13 0] },
   { endpoint := .bluetoothMic
     pins := [.choose "SDOL Mux" "SRC-B" (some "ADC Left"),
       .choose "SDOR Mux" "SRC-B" (some "ADC Right"), .level micAmp 13 0]
     link := some .capture }]

/-- The wiring of ordinary playback. -/
def playback : List Wiring :=
  [{ endpoint := .earpiece
     pins := switches ["LOUT1 Mixer DACL", "ROUT1 Mixer DACR", "Earpiece Switch"] },
   { endpoint := .amp, pins := switches ["LOUT2 Mixer DACHL", "ROUT2 Mixer DACHR"] },
   { endpoint := .speaker, pins := switches ["Speaker Switch"] },
   { endpoint := .headphone, pins := switches ["Headphones Switch"] },
   { endpoint := .bluetooth, pins := [], link := some .playback }]

/-- The wiring of the uplink. -/
def uplink : List Wiring :=
  [{ endpoint := .mainMic
     pins := switches ["Line Input 1 Differential", "Main Mic Switch", "LOUT3 Mixer LINS1",
       "ROUT3 Mixer RINS1", modemSend] ++ inputMuxes "RIN4" "LIN1" ++ [.level micAmp 13 0] },
   { endpoint := .backMic
     pins := switches ["Line Input 2 Differential", "Sub Mic Switch", "LOUT3 Mixer LINS2",
       "ROUT3 Mixer RINS2", modemSend] ++ inputMuxes "RIN4" "LIN1" ++ [.level micAmp 13 0] },
   { endpoint := .headsetMic
     pins := switches ["Line Input 3 Differential", "Jack Mic Switch", "LOUT3 Mixer LINS3",
       "ROUT3 Mixer RINS3", modemSend] ++ inputMuxes "RIN4" "LIN3" ++ [.level micAmp 9 0] },
   { endpoint := .bluetoothMic
     pins := [.choose "SRA Mux" "SRMXR Mux" (some "MIXD"),
       .choose "SRMXL Mux" "SRC-B" (some "PFMXL Mux")] ++
       switches ["LOUT3 Mixer DACSL", modemSend] ++
       [.choose "SDOL Mux" "SRC-B" (some "ADC Left"), .level micAmp 5 (-1)]
     link := some .capture }]

/-- The wiring of the downlink. -/
def downlink : List Wiring :=
  [{ endpoint := .earpiece
     pins := switches [lineInput4, "LOUT1 Mixer DACL", "ROUT1 Mixer DACR", "LOUT1 Mixer LINL4",
       "ROUT1 Mixer RINR4", modemReceive, "Earpiece Switch"] },
   { endpoint := .amp
     pins := switches [lineInput4, "LOUT2 Mixer DACHL", "ROUT2 Mixer DACHR", "LOUT2 Mixer LINH4",
       "ROUT2 Mixer RINH4", modemReceive] },
   { endpoint := .speaker, pins := switches ["Speaker Switch"] },
   { endpoint := .headphone, pins := switches ["Headphones Switch"] },
   { endpoint := .bluetooth
     pins := switches [lineInput4, modemReceive] ++
       [.choose "PFMXR Mux" "PFMXR Mixer" (some "SDTI Right")] ++ inputMuxes "RIN4" "LIN1" ++
       [.level micAmp 5 0]
     link := some .playback }]

end Stock

/-- The tables of the stock codec. -/
def CodecTables.stock : CodecTables where
  initial := Stock.initial
  routes := ⟨Stock.capture, Stock.playback, Stock.uplink, Stock.downlink⟩
  endpointGains :=
    [(.headphone, ⟨"MAX9877 Amp HP Playback Volume", 28⟩),
      (.phoneOut, ⟨"Line Output3 Playback Volume", 3⟩),
      (.earpiece, ⟨"Line Output1 Playback Volume", 6⟩),
      (.speaker, ⟨"MAX9877 Amp Speaker Playback Volume", 28⟩)]
  laneGains :=
    [(.capture, ⟨Stock.micAmp, 15⟩), (.playback, ⟨"Master Playback Volume", 231⟩)]

end PhoneAudio
