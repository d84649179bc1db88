import MultiscanDriver.Messages
import MultiscanDriver.PointLayout
import MultiscanDriver.FrameBuilder
import MultiscanDriver.Assembler
import MultiscanDriver.Rounds
import MultiscanDriver.Demultiplexer
import MultiscanDriver.DecodeLoop
import MultiscanDriver.Lifecycle
import MultiscanDriver.Node
